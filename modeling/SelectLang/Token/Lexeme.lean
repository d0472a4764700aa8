import SelectLang.Dialect
import SelectLang.Text.Alphabetic
import SelectLang.Text.Numeric
import SelectLang.Token.Kind

/-!
# Lexemes

What stands at the front of a text without leading blanks.  A lexeme is a symbol, a string between
two equal quotes, a number, or a word; of several that fit, the longest is taken.  A text that
begins with none of them begins with a stray character, or with a quote that is never closed.

* `spelling_append_rest` — a scan cuts the text in two and loses nothing;
* `spelling_ne_nil` — the part before the cut is not empty.
-/

namespace SelectLang

open Text

/-! ## Symbols -/

/-- The spellings of the symbols and their kinds.  A spelling stands before every shorter one that
it begins with, so the first that fits is the longest. -/
def symbols : List (String × Kind) :=
  [("<>", .comparator .ne), ("<=", .comparator .le), ("<", .comparator .lt),
   (">=", .comparator .ge), (">", .comparator .gt), ("!=", .comparator .ne),
   ("=", .comparator .eq), (",", .comma), (";", .semicolon), ("*", .star)]

/-- The longest symbol that the text begins with. -/
def symbol? (cs : List Char) : Option (String × Kind) :=
  symbols.find? fun s => s.1.toList.isPrefixOf cs

theorem append_drop_of_symbol? {cs : List Char} {s : String × Kind} (h : symbol? cs = some s) :
    s.1.toList ++ cs.drop s.1.toList.length = cs := by
  have hfit : s.1.toList.isPrefixOf cs = true :=
    List.find?_some (p := fun s : String × Kind => s.1.toList.isPrefixOf cs) h
  obtain ⟨rest, rfl⟩ := List.isPrefixOf_iff_prefix.1 hfit
  rw [List.drop_left]

theorem toList_ne_nil_of_symbol? {cs : List Char} {s : String × Kind} (h : symbol? cs = some s) :
    s.1.toList ≠ [] := by
  have hall : ∀ s ∈ symbols, s.1.toList ≠ [] := by decide
  exact hall s (List.mem_of_find?_eq_some h)

/-! ## Words and numbers -/

/-- The character can begin a word. -/
def beginsWord (c : Char) : Bool := isAlphabetic c || c == '_'

/-- The character can stand inside a word. -/
def continuesWord (c : Char) : Bool := isAlphabetic c || isNumeric c || c == '_'

theorem continuesWord_of_beginsWord {c : Char} (h : beginsWord c = true) :
    continuesWord c = true := by
  unfold beginsWord at h
  unfold continuesWord
  cases hc : isAlphabetic c <;> simp_all

/-- The kind and the text of a word: a keyword in its own spelling, or else a name as written. -/
def classify (word : List Char) : Kind × String :=
  match Keyword.ofWord? word with
  | some k => (.keyword k, k.spelling)
  | none => (.identifier, String.ofList word)

/-- Splits off the digits at the front, and with them a point and the digits after it when there
is at least one. -/
def splitNumber (cs : List Char) : List Char × List Char :=
  let whole := cs.takeWhile Char.isDigit
  let rest := cs.dropWhile Char.isDigit
  match rest with
  | '.' :: tail =>
      if (tail.takeWhile Char.isDigit).isEmpty then (whole, rest)
      else (whole ++ '.' :: tail.takeWhile Char.isDigit, tail.dropWhile Char.isDigit)
  | _ => (whole, rest)

theorem splitNumber_append (cs : List Char) : (splitNumber cs).1 ++ (splitNumber cs).2 = cs := by
  rw [splitNumber]
  split
  · rename_i tail htail
    split
    · exact List.takeWhile_append_dropWhile
    · rw [List.append_assoc, List.cons_append, List.takeWhile_append_dropWhile, ← htail,
        List.takeWhile_append_dropWhile]
  · exact List.takeWhile_append_dropWhile

theorem splitNumber_fst_ne_nil {c : Char} {cs : List Char} (h : c.isDigit = true) :
    (splitNumber (c :: cs)).1 ≠ [] := by
  have hwhole : (c :: cs).takeWhile Char.isDigit = c :: cs.takeWhile Char.isDigit := by
    rw [List.takeWhile_cons, if_pos h]
  rw [splitNumber, hwhole]
  split
  · split <;> exact List.cons_ne_nil _ _
  · exact List.cons_ne_nil _ _

/-! ## Scanning -/

/-- What stands at the front of a text. -/
inductive Piece where
  /-- A lexeme of some kind, with the text that its token carries. -/
  | lexeme (kind : Kind) (text : String)
  /-- A character that begins no lexeme. -/
  | stray (c : Char)
  /-- A quote without a second one after it. -/
  | unclosed (quote : Char)
  deriving DecidableEq, Repr

/-- A piece, the characters that spell it, and the text after them. -/
structure Scan where
  piece : Piece
  spelling : List Char
  rest : List Char
  deriving DecidableEq, Repr

/-- A string runs to the next quote like the one that opens it; without one, the rest of the text is
an unclosed string. -/
def scanString (quote : Char) (cs : List Char) : Scan :=
  let content := cs.takeWhile (· != quote)
  match cs.dropWhile (· != quote) with
  | [] => ⟨.unclosed quote, quote :: content, []⟩
  | close :: rest => ⟨.lexeme .string (String.ofList content), quote :: content ++ [close], rest⟩

/-- The piece that a text begins with; an empty text has none. -/
def scan? (quotes : QuoteStyle) : List Char → Option Scan
  | [] => none
  | c :: cs =>
      some <| match symbol? (c :: cs) with
        | some (spelling, kind) =>
            ⟨.lexeme kind spelling, spelling.toList, (c :: cs).drop spelling.toList.length⟩
        | none =>
            if quotes.accepts c then scanString c cs
            else if c.isDigit then
              let (number, rest) := splitNumber (c :: cs)
              ⟨.lexeme .number (String.ofList number), number, rest⟩
            else if beginsWord c then
              let word := (c :: cs).takeWhile continuesWord
              let (kind, text) := classify word
              ⟨.lexeme kind text, word, (c :: cs).dropWhile continuesWord⟩
            else ⟨.stray c, [c], cs⟩

theorem scanString_append (quote : Char) (cs : List Char) :
    (scanString quote cs).spelling ++ (scanString quote cs).rest = quote :: cs := by
  have hcut : cs.takeWhile (· != quote) ++ cs.dropWhile (· != quote) = cs :=
    List.takeWhile_append_dropWhile
  rw [scanString]
  split
  · rename_i hnil
    rw [hnil] at hcut
    simpa using hcut
  · rename_i close rest hcons
    rw [hcons] at hcut
    simpa using hcut

theorem scanString_spelling_ne_nil (quote : Char) (cs : List Char) :
    (scanString quote cs).spelling ≠ [] := by
  rw [scanString]
  split <;> exact List.cons_ne_nil _ _

theorem scan?_eq_none_iff {quotes : QuoteStyle} {cs : List Char} :
    scan? quotes cs = none ↔ cs = [] := by
  cases cs with
  | nil => simp [scan?]
  | cons c cs => simp [scan?]

/-- A scan cuts the text in two and loses nothing. -/
theorem spelling_append_rest {quotes : QuoteStyle} {cs : List Char} {s : Scan}
    (h : scan? quotes cs = some s) : s.spelling ++ s.rest = cs := by
  cases cs with
  | nil => cases h
  | cons c cs =>
    obtain rfl := Option.some.inj h
    split
    · rename_i spelling kind hs
      exact append_drop_of_symbol? hs
    · split
      · exact scanString_append c cs
      · split
        · exact splitNumber_append (c :: cs)
        · split
          · exact List.takeWhile_append_dropWhile
          · rfl

/-- The part before the cut is not empty. -/
theorem spelling_ne_nil {quotes : QuoteStyle} {cs : List Char} {s : Scan}
    (h : scan? quotes cs = some s) : s.spelling ≠ [] := by
  cases cs with
  | nil => cases h
  | cons c cs =>
    obtain rfl := Option.some.inj h
    split
    · rename_i spelling kind hs
      exact toList_ne_nil_of_symbol? hs
    · split
      · exact scanString_spelling_ne_nil c cs
      · split
        · rename_i hdigit
          exact splitNumber_fst_ne_nil hdigit
        · split
          · rename_i hword
            simp [continuesWord_of_beginsWord hword]
          · exact List.cons_ne_nil _ _

theorem rest_length_lt {quotes : QuoteStyle} {cs : List Char} {s : Scan}
    (h : scan? quotes cs = some s) : s.rest.length < cs.length := by
  have hpos : 0 < s.spelling.length := List.length_pos_iff.2 (spelling_ne_nil h)
  rw [← spelling_append_rest h, List.length_append]
  omega

end SelectLang

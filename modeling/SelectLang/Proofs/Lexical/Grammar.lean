import Mathlib.Data.List.Chain
import SelectLang.Dialect
import SelectLang.Text.Alphabetic
import SelectLang.Text.Blank
import SelectLang.Text.Bytes
import SelectLang.Text.Numeric
import SelectLang.Token.Basic

/-!
# The lexical grammar

How a text is made of lexemes, without reference to how it is cut.  A lexeme is a word, a number, a
string or a symbol; a layout puts blanks before each lexeme and after the last one.  Two lexemes
with nothing between them must not fuse, that is, be taken for the beginning of a longer lexeme.
-/

namespace SelectLang

open Text

/-! ## Lexemes -/

/-- A letter or an underscore, and then letters, digits and underscores. -/
def IsWord (cs : List Char) : Prop :=
  ∃ first rest, cs = first :: rest ∧ (isAlphabetic first = true ∨ first = '_') ∧
    ∀ c ∈ rest, isAlphabetic c = true ∨ isNumeric c = true ∨ c = '_'

/-- One ASCII digit or more. -/
def IsDigits (cs : List Char) : Prop := cs ≠ [] ∧ ∀ c ∈ cs, c.isDigit = true

/-- Digits, and possibly a point and more digits. -/
def IsNumber (cs : List Char) : Prop :=
  ∃ whole, IsDigits whole ∧
    (cs = whole ∨ ∃ fraction, IsDigits fraction ∧ cs = whole ++ '.' :: fraction)

/-- The texts differ at most in the case of ASCII letters. -/
def SameIgnoringCase (cs ds : List Char) : Prop := cs.map Char.toUpper = ds.map Char.toUpper

/-- The spellings of the symbols, with their kinds. -/
inductive IsSymbol : String → Kind → Prop
  | comma : IsSymbol "," .comma
  | semicolon : IsSymbol ";" .semicolon
  | star : IsSymbol "*" .star
  | eq : IsSymbol "=" (.comparator .eq)
  | ne : IsSymbol "!=" (.comparator .ne)
  | ltGt : IsSymbol "<>" (.comparator .ne)
  | lt : IsSymbol "<" (.comparator .lt)
  | le : IsSymbol "<=" (.comparator .le)
  | gt : IsSymbol ">" (.comparator .gt)
  | ge : IsSymbol ">=" (.comparator .ge)

/-- A spelling of a lexeme, with the kind and the text of its token. -/
inductive IsLexeme (quotes : QuoteStyle) : List Char → Kind → String → Prop
  | keyword {word : List Char} (k : Keyword) (hword : IsWord word)
      (hk : SameIgnoringCase word k.spelling.toList) :
      IsLexeme quotes word (.keyword k) k.spelling
  | name {word : List Char} (hword : IsWord word)
      (hname : ∀ k : Keyword, ¬ SameIgnoringCase word k.spelling.toList) :
      IsLexeme quotes word .identifier (String.ofList word)
  | number {digits : List Char} (hdigits : IsNumber digits) :
      IsLexeme quotes digits .number (String.ofList digits)
  | string {quote : Char} {content : List Char} (hquote : quotes.accepts quote = true)
      (hcontent : quote ∉ content) :
      IsLexeme quotes (quote :: (content ++ [quote])) .string (String.ofList content)
  | symbol {spelling : String} {kind : Kind} (hsymbol : IsSymbol spelling kind) :
      IsLexeme quotes spelling.toList kind spelling

/-- A lexeme: how it is spelled, and the kind and the text of its token. -/
structure Lexeme (quotes : QuoteStyle) where
  spelling : List Char
  kind : Kind
  text : String
  isLexeme : IsLexeme quotes spelling kind text

/-- The kinds of words. -/
def Kind.IsOfWord : Kind → Prop
  | .keyword _ => True
  | .identifier => True
  | _ => False

instance : DecidablePred Kind.IsOfWord
  | .keyword _ => isTrue trivial
  | .identifier => isTrue trivial
  | .number | .string | .comma | .semicolon | .star | .comparator _ | .eof => isFalse id

/-- Written with nothing between them, the two would not be cut where the first one ends: a word
before a word or a number, a number before a number, `<` before `=`, `>` or `>=`, and `>` before
`=`. -/
def Fuses (first second : Kind) : Prop :=
  (first.IsOfWord ∧ (second.IsOfWord ∨ second = .number)) ∨
  (first = .number ∧ second = .number) ∨
  (first = .comparator .lt ∧ (second = .comparator .eq ∨ second = .comparator .gt ∨
    second = .comparator .ge)) ∨
  (first = .comparator .gt ∧ second = .comparator .eq)

/-! ## Layouts -/

/-- Blanks, or nothing. -/
abbrev Gap := { cs : List Char // ∀ c ∈ cs, isBlank c = true }

/-- A lexeme and the gap before it. -/
structure Item (quotes : QuoteStyle) where
  gap : Gap
  lexeme : Lexeme quotes

variable {quotes : QuoteStyle}

/-- The item as it stands in the text. -/
def Item.text (item : Item quotes) : List Char := item.gap.val ++ item.lexeme.spelling

/-- The items one after the other. -/
def itemsText (items : List (Item quotes)) : List Char := items.flatMap Item.text

/-- The tokens of items that stand one after the other from an offset on. -/
def place (offset : Nat) : List (Item quotes) → List Token
  | [] => []
  | item :: items =>
      let start := offset + byteLength item.gap.val
      let stop := start + byteLength item.lexeme.spelling
      ⟨item.lexeme.kind, item.lexeme.text, ⟨start, stop⟩⟩ :: place stop items

/-- A text laid out as lexemes and gaps. -/
structure Layout (quotes : QuoteStyle) where
  items : List (Item quotes)
  trailing : Gap
  /-- Lexemes that would fuse have a gap between them. -/
  apart : items.IsChain fun x y => y.gap.val = [] → ¬ Fuses x.lexeme.kind y.lexeme.kind

/-- The text that is laid out. -/
def Layout.text (layout : Layout quotes) : List Char :=
  itemsText layout.items ++ layout.trailing.val

@[simp] theorem itemsText_nil : itemsText ([] : List (Item quotes)) = [] := rfl

@[simp] theorem itemsText_cons (item : Item quotes) (items : List (Item quotes)) :
    itemsText (item :: items) = item.gap.val ++ (item.lexeme.spelling ++ itemsText items) := by
  rw [itemsText, List.flatMap_cons, Item.text, List.append_assoc]
  rfl

end SelectLang

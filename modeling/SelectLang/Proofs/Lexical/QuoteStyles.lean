import SelectLang.Proofs.Lexical.Session
import SelectLang.Statement.Parse

/-!
# Dialects with one quote

A dialect that accepts one of the two quotes cuts a text as the dialect with both does, up to the
first string that opens with the other quote; that quote is then a stray character.  Where there is
no such string, the two dialects agree on all tokens or on the error, and so on the query
(`tokenize_of_quotes`).

What follows a quote never matters for this: the rules of a dialect ask about a quote only when it
stands where a lexeme begins (`scan?_of_refuses_eq_false`).
-/

namespace SelectLang

open Text

variable {style : QuoteStyle}

/-! ## Refused quotes -/

/-- The quote opens a string in other dialects, but not here. -/
def QuoteStyle.refuses : QuoteStyle → Char → Bool
  | .single, c => c == '"'
  | .double, c => c == '\''
  | .both, _ => false

theorem accepts_eq_of_refuses_eq_false {c : Char} (h : style.refuses c = false) :
    style.accepts c = QuoteStyle.both.accepts c := by
  cases style <;> simp_all [QuoteStyle.refuses, QuoteStyle.accepts]

theorem eq_of_refuses {c : Char} (h : style.refuses c = true) : c = '\'' ∨ c = '"' := by
  cases style <;> simp_all [QuoteStyle.refuses]

theorem accepts_eq_false_of_refuses {c : Char} (h : style.refuses c = true) :
    style.accepts c = false := by
  cases style <;> simp_all [QuoteStyle.refuses, QuoteStyle.accepts]

/-- Before a character that is no refused quote the dialects scan alike. -/
theorem scan?_of_refuses_eq_false {c : Char} (h : style.refuses c = false) (cs : List Char) :
    scan? style (c :: cs) = scan? .both (c :: cs) := by
  rw [scan?, scan?, accepts_eq_of_refuses_eq_false h]

/-- With both quotes accepted, any quote opens a string. -/
theorem scan?_both_of_refuses {c : Char} (h : style.refuses c = true) (cs : List Char) :
    scan? .both (c :: cs) = some (scanString c cs) := by
  have hquote : QuoteStyle.both.accepts c = true := by
    rcases eq_of_refuses h with rfl | rfl <;> rfl
  rw [scan?, symbol?_eq_none (notMem_symbolHeads_of_accepts hquote)]
  simp only [hquote, if_true]

/-! ## Openings -/

/-- Where a string begins, be it closed or not, and with which quote. -/
structure Opening where
  position : Nat
  quote : Char
  deriving DecidableEq, Repr

/-- The character of a text at an offset. -/
def charAt? (offset : Nat) (source : List Char) : Option Char :=
  (splitBytes offset source).bind fun cut => cut.2.head?

/-- The opening of a string, if the item of a scan is a string or the error of one that is not
closed. -/
def opening? (source : List Char) : Except LexicalError Token → Option Opening
  | .ok token =>
      if token.kind = .string then (charAt? token.position source).map (⟨token.position, ·⟩)
      else none
  | .error (.unterminatedString quote position) => some ⟨position, quote⟩
  | .error (.unexpectedCharacter _ _) => none

/-- The openings of the strings among the items that a stream yields. -/
def TokenStream.openings (stream : TokenStream) (source : List Char) : List Opening :=
  stream.items.1.filterMap (opening? source)

/-- The openings of the strings that a scan with both quotes comes upon, to its end or to its
first error. -/
def openings (source : String) : List Opening :=
  (TokenStream.ofString .both source).openings source.toList

/-- A string token opens with the character at which it begins. -/
theorem opening?_ok {token : Token} {front : List Char} (h : token.position = byteLength front)
    (c : Char) (rest : List Char) :
    opening? (front ++ c :: rest) (.ok token) =
      if token.kind = .string then some ⟨byteLength front, c⟩ else none := by
  have hchar : charAt? (byteLength front) (front ++ c :: rest) = some c := by
    rw [charAt?, splitBytes_append]
    rfl
  rw [opening?, h, hchar]
  rfl

/-- What comes of a scan if the first refused opening in it is a stray character. -/
def restricted (style : QuoteStyle) (openings : List Opening)
    (outcome : Except LexicalError (List Token)) : Except LexicalError (List Token) :=
  match openings.find? fun opening => style.refuses opening.quote with
  | some opening => .error (.unexpectedCharacter opening.quote opening.position)
  | none => outcome

theorem restricted_cons_of_refuses {opening : Opening} (h : style.refuses opening.quote = true)
    (others : List Opening) (outcome : Except LexicalError (List Token)) :
    restricted style (opening :: others) outcome =
      .error (.unexpectedCharacter opening.quote opening.position) := by
  simp [restricted, h]

theorem restricted_append {found : Option Opening}
    (h : ∀ opening ∈ found, style.refuses opening.quote = false) (others : List Opening)
    (outcome : Except LexicalError (List Token)) :
    restricted style (found.toList ++ others) outcome = restricted style others outcome := by
  cases found with
  | none => rfl
  | some opening => simp [restricted, h opening rfl]

theorem restricted_map (openings : List Opening) (outcome : Except LexicalError (List Token))
    (f : List Token → List Token) :
    restricted style openings (outcome.map f) = (restricted style openings outcome).map f := by
  unfold restricted
  split <;> rfl

/-! ## Items of a stream -/

namespace TokenStream

theorem items_of_exhausted {stream : TokenStream} (h : stream.exhausted = true) :
    stream.items.1 = [] := by
  rw [items]
  split
  · rfl
  · rename_i item left hnext
    rw [next?_eq_none_iff.2 h] at hnext
    cases hnext

theorem items_of_next? {stream left : TokenStream} {item : Except LexicalError Token}
    (h : stream.next? = some (item, left)) : stream.items.1 = item :: left.items.1 := by
  rw [items]
  split
  · rename_i hnone
    rw [h] at hnone
    cases hnone
  · rename_i item' left' hnext
    obtain ⟨rfl, rfl⟩ := Prod.mk.inj (Option.some.inj (hnext.symm.trans h))
    rfl

theorem openings_of_next? {stream left : TokenStream} {item : Except LexicalError Token}
    (h : stream.next? = some (item, left)) (source : List Char) :
    stream.openings source = (opening? source item).toList ++ left.openings source := by
  rw [openings, items_of_next? h, List.filterMap_cons]
  cases opening? source item <;> rfl

theorem openings_of_exhausted {stream : TokenStream} (h : stream.exhausted = true)
    (source : List Char) : stream.openings source = [] := by
  rw [openings, items_of_exhausted h, List.filterMap_nil]

end TokenStream

/-! ## Cutting with one quote -/

/-- At a refused quote the scan with both quotes opens a string, closed or not. -/
theorem exists_openings_of_refuses {c : Char} (hc : style.refuses c = true)
    {front gap cs : List Char} (hgap : ∀ d ∈ gap, isBlank d = true) (hblank : isBlank c = false) :
    ∃ others, (TokenStream.mk .both (gap ++ c :: cs) (byteLength front) false).openings
        (front ++ (gap ++ c :: cs)) =
      ⟨byteLength (front ++ gap), c⟩ :: others := by
  have hhead : ∀ d ∈ (c :: cs).head?, isBlank d = false := by
    intro d hd
    rwa [← Option.some.inj hd]
  have hpull := @pull_of_scan? .both gap (c :: cs) (byteLength front) false _ hgap hhead
    (scan?_both_of_refuses hc cs)
  rw [← byteLength_append] at hpull
  rw [← List.append_assoc]
  rcases scanString_cases c cs with ⟨content, rest, -, hstring⟩ | ⟨content, -, hstring⟩
  · rw [hstring] at hpull
    rw [TokenStream.openings_of_next? (TokenStream.next?_of_pull_eq_ok rfl hpull), opening?_ok rfl,
      if_pos rfl]
    exact ⟨_, rfl⟩
  · rw [hstring] at hpull
    rw [TokenStream.openings_of_next? (TokenStream.next?_of_pull_eq_error rfl hpull)]
    exact ⟨_, rfl⟩

/-- A string that is not closed opens with the first character of what is scanned. -/
theorem eq_of_scan?_unclosed {quotes : QuoteStyle} {c quote : Char} {cs spelling rest : List Char}
    (h : scan? quotes (c :: cs) = some ⟨.unclosed quote, spelling, rest⟩) : quote = c := by
  obtain ⟨content, hcs, -⟩ := unclosed_of_scan? h
  exact (List.cons.inj hcs).1.symm

section

variable {source rest : List Char} {offset : Nat}

/-- Where both dialects come to the same error, it is no refused opening. -/
theorem cut_eq_restricted_of_error {e : LexicalError} {left left' : TokenStream}
    (hstyle : (TokenStream.mk style rest offset false).pull = (.error e, left))
    (hboth : (TokenStream.mk .both rest offset false).pull = (.error e, left'))
    (hopening : ∀ opening ∈ opening? source (.error e), style.refuses opening.quote = false) :
    cut style rest offset =
      restricted style ((TokenStream.mk .both rest offset false).openings source)
        (cut .both rest offset) := by
  rw [cut_of_pull_eq_error hstyle, cut_of_pull_eq_error hboth,
    TokenStream.openings_of_next? (TokenStream.next?_of_pull_eq_error rfl hboth),
    TokenStream.openings_of_exhausted rfl, restricted_append hopening]
  rfl

/-- Where both dialects pull the same token, they go on alike. -/
theorem cut_eq_restricted_of_ok {token : Token} {more : List Char} {stop : Nat}
    (htoken : token.isEof = false)
    (hstyle : (TokenStream.mk style rest offset false).pull =
      (.ok token, ⟨style, more, stop, false⟩))
    (hboth : (TokenStream.mk .both rest offset false).pull =
      (.ok token, ⟨.both, more, stop, false⟩))
    (hopening : ∀ opening ∈ opening? source (.ok token), style.refuses opening.quote = false)
    (hmore : cut style more stop =
      restricted style ((TokenStream.mk .both more stop false).openings source)
        (cut .both more stop)) :
    cut style rest offset =
      restricted style ((TokenStream.mk .both rest offset false).openings source)
        (cut .both rest offset) := by
  rw [cut_of_pull_eq_ok hstyle, cut_of_pull_eq_ok hboth, htoken, if_neg Bool.false_ne_true,
    if_neg Bool.false_ne_true,
    TokenStream.openings_of_next? (TokenStream.next?_of_pull_eq_ok rfl hboth),
    restricted_append hopening, restricted_map]
  exact congrArg (Except.map (token :: ·)) hmore

end

/-- In a dialect with one quote a text is cut as with both, up to the first string that opens with
the other one. -/
theorem cut_eq_restricted (style : QuoteStyle) (front rest : List Char) :
    cut style rest (byteLength front) =
      restricted style
        ((TokenStream.mk .both rest (byteLength front) false).openings (front ++ rest))
        (cut .both rest (byteLength front)) := by
  induction hn : rest.length using Nat.strong_induction_on generalizing front rest with
  | _ n ih =>
    obtain ⟨gap, text, rfl, hgap, htext⟩ : ∃ gap text, rest = gap ++ text ∧
        (∀ c ∈ gap, isBlank c = true) ∧ ∀ c ∈ text.head?, isBlank c = false :=
      ⟨rest.takeWhile isBlank, rest.dropWhile isBlank, List.takeWhile_append_dropWhile.symm,
        fun c hc => List.mem_takeWhile_imp hc, fun c hc => eq_false_of_mem_head?_dropWhile hc⟩
    cases text with
    | nil =>
      rw [List.append_nil] at *
      rw [cut_of_isBlank hgap, cut_of_isBlank hgap, TokenStream.openings_of_next?
        (TokenStream.next?_of_pull_eq_ok rfl (pull_of_isBlank hgap)),
        TokenStream.openings_of_exhausted rfl]
      rfl
    | cons c cs =>
      by_cases hc : style.refuses c = true
      · obtain ⟨others, hopenings⟩ :=
          @exists_openings_of_refuses style c hc front gap cs hgap (htext c rfl)
        rw [hopenings, restricted_cons_of_refuses hc, byteLength_append]
        exact cut_stray hgap (htext c rfl)
          (scan?_quote (eq_of_refuses hc) (accepts_eq_false_of_refuses hc))
      · rw [Bool.not_eq_true] at hc
        obtain ⟨⟨piece, spelling, more⟩, hboth⟩ : ∃ found, scan? .both (c :: cs) = some found :=
          ⟨_, rfl⟩
        have hstyle := (scan?_of_refuses_eq_false hc cs).trans hboth
        have hpull := fun {quotes : QuoteStyle} h =>
          @pull_of_scan? quotes gap (c :: cs) (byteLength front) false ⟨piece, spelling, more⟩
            hgap htext h
        cases piece with
        | lexeme kind text =>
          have hkind := kind_ne_eof_of_isLexeme (isLexeme_of_scan? hboth).1
          have hcut : front ++ (gap ++ c :: cs) = (front ++ gap ++ spelling) ++ more := by
            rw [← spelling_append_rest hboth]
            simp only [List.append_assoc]
          refine cut_eq_restricted_of_ok (by simpa [Token.isEof] using hkind) (hpull hstyle)
            (hpull hboth) ?_ ?_
          · intro opening hopening
            rw [← List.append_assoc, opening?_ok] at hopening
            · split at hopening
              · rw [← Option.some.inj hopening, hc]
              · cases hopening
            · exact (byteLength_append front gap).symm
          · have hshorter : more.length < n := by
              have hlt := rest_length_lt hboth
              rw [← hn, List.length_append]
              exact Nat.lt_of_lt_of_le hlt (Nat.le_add_left _ _)
            rw [hcut, ← byteLength_append, ← byteLength_append]
            exact ih more.length hshorter (front ++ gap ++ spelling) more rfl
        | stray d =>
          refine cut_eq_restricted_of_error (hpull hstyle) (hpull hboth) ?_
          intro opening hopening
          cases hopening
        | unclosed quote =>
          obtain rfl := eq_of_scan?_unclosed hboth
          refine cut_eq_restricted_of_error (hpull hstyle) (hpull hboth) ?_
          intro opening hopening
          rw [← Option.some.inj hopening, hc]

/-! ## Texts and queries -/

theorem tokenize_eq_restricted (required : Bool) (style : QuoteStyle) (source : String) :
    tokenize ⟨required, style⟩ source =
      restricted style (openings source) (tokenize ⟨required, .both⟩ source) :=
  cut_eq_restricted style [] source.toList

/-- A dialect with one quote cuts a text as the dialect with both does, unless a string in it opens
with the quote that is refused; the first such quote is then a stray character.  So the statements
it reads are those that open no string with that quote, and it reads them to the same queries. -/
theorem tokenize_of_quotes (required : Bool) (style : QuoteStyle) (source : String) :
    (match (openings source).find? fun opening => style.refuses opening.quote with
      | some opening =>
          tokenize ⟨required, style⟩ source =
            .error (.unexpectedCharacter opening.quote opening.position)
      | none => tokenize ⟨required, style⟩ source = tokenize ⟨required, .both⟩ source) ∧
      ∀ q, Query.parse ⟨required, style⟩ source = .ok q ↔
        Query.parse ⟨required, .both⟩ source = .ok q ∧
          ∀ opening ∈ openings source, style.refuses opening.quote = false := by
  have htokens := tokenize_eq_restricted required style source
  cases hfind : (openings source).find? fun opening => style.refuses opening.quote with
  | some opening =>
    rw [restricted, hfind] at htokens
    refine ⟨htokens, fun q => ⟨fun hparse => ?_, ?_⟩⟩
    · rw [Query.parse, htokens] at hparse
      cases hparse
    · rintro ⟨-, hnone⟩
      have hrefused := List.find?_some hfind
      rw [hnone opening (List.mem_of_find?_eq_some hfind)] at hrefused
      cases hrefused
  | none =>
    rw [restricted, hfind] at htokens
    have hnone : ∀ opening ∈ openings source, style.refuses opening.quote = false := by
      simpa using hfind
    refine ⟨htokens, fun q => ?_⟩
    rw [Query.parse, Query.parse, htokens]
    exact (and_iff_left hnone).symm

/-- A quote inside a string opens none, whichever quotes the string is in. -/
example : openings "a = \"it's\" or b = 'x'" = [⟨4, '"'⟩, ⟨18, '\''⟩] := by decide +kernel

end SelectLang

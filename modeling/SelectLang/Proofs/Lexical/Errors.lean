import SelectLang.Proofs.Lexical.Concatenation

/-!
# What lexical errors tell

An error points at the character of the text where no lexeme begins, or at the quote of which there
is no second one, and how it is told holds of every longer text too as far as it can
(`exactError_of_tokenize`).  A character that begins nothing goes on to begin nothing, unless it
was the last one; a string that is not closed goes on not to be closed, exactly as long as its quote
does not come.  Both rest on no lexeme before the error being made longer (`Fails.shields`).
-/

namespace SelectLang

open Text

variable {quotes : QuoteStyle}

/-! ## Where an error stands -/

/-- Behind lexemes and a gap the text is cut where they end. -/
theorem splitBytes_behind {cs gap rest : List Char} {items : List (Item quotes)}
    (h : cs = itemsText items ++ (gap ++ rest)) :
    splitBytes (0 + byteLength (itemsText items) + byteLength gap) cs =
      some (itemsText items ++ gap, rest) := by
  rw [h, Nat.zero_add, ← byteLength_append, ← List.append_assoc]
  exact splitBytes_append _ _

/-- No text has an error before it begins. -/
theorem le_position_of_cut_eq_error {cs : List Char} {offset : Nat} {e : LexicalError}
    (h : cut quotes cs offset = .error e) : offset ≤ e.position := by
  obtain ⟨items, rest, after, -, -, hfails⟩ := exists_fails_of_cut h
  cases hfails with
  | stray => simp only [LexicalError.position]; omega
  | unclosed => simp only [LexicalError.position]; omega

/-! ## Text behind an error -/

/-- The text from an error on is long enough to keep what stands behind it from the lexemes before,
unless the error is at the last character. -/
theorem Fails.shields {cs rest : List Char} {offset : Nat} {e : LexicalError}
    (h : Fails quotes offset cs e rest)
    (hrest : ∀ c position, e = .unexpectedCharacter c position → rest ≠ []) (more : List Char) :
    Shields cs more := by
  right
  cases h with
  | @stray gap rest c hgap hblank hbegins =>
    have hne := hrest c _ rfl
    refine ⟨by simp, ?_⟩
    rw [ne_eq, List.append_eq_singleton_iff]
    simp [hne]
  | @unclosed gap content quote hgap hquote hcontent =>
    refine ⟨by simp, ?_⟩
    rw [ne_eq, List.append_eq_singleton_iff]
    rcases eq_of_accepts hquote with rfl | rfl <;> simp

/-- An error stays what it is whatever text stands behind, if it is not at the last character and
the text does not close a string. -/
theorem cut_append_of_not_last {items : List (Item quotes)} {rest after more : List Char}
    {offset : Nat} {e : LexicalError} (hapart : Apart items rest)
    (hfails : Fails quotes (offset + byteLength (itemsText items)) rest e after)
    (hafter : ∀ c position, e = .unexpectedCharacter c position → after ≠ [])
    (hquote : ∀ quote position, e = .unterminatedString quote position → quote ∉ more) :
    cut quotes (itemsText items ++ rest ++ more) offset = .error e := by
  apply cut_append_of_fails hapart hfails (hfails.shields hafter more)
  cases e with
  | unexpectedCharacter c position => exact fun hnil => absurd hnil (hafter c position rfl)
  | unterminatedString quote position => exact hquote quote position rfl

/-- A quote in the text behind closes the string, and what is then still wrong stands behind it. -/
theorem cut_append_ne_of_mem {items : List (Item quotes)} {gap content more : List Char}
    {offset : Nat} {quote : Char} (hgap : ∀ c ∈ gap, isBlank c = true)
    (hquote : quotes.accepts quote = true) (hcontent : quote ∉ content)
    (hapart : Apart items (gap ++ quote :: content)) (hmore : quote ∈ more) :
    cut quotes (itemsText items ++ (gap ++ quote :: content) ++ more) offset ≠
      .error (.unterminatedString quote
        (offset + byteLength (itemsText items) + byteLength gap)) := by
  obtain ⟨before, after, rfl, hbefore⟩ := List.eq_append_cons_of_mem hmore
  -- the string with the second quote is a lexeme
  let closed : Item quotes :=
    ⟨⟨gap, hgap⟩, ⟨_, .string, _, .string hquote (List.not_mem_append hcontent hbefore)⟩⟩
  have htext : itemsText items ++ (gap ++ quote :: content) ++ (before ++ quote :: after) =
      itemsText (items ++ [closed]) ++ after := by
    simp [itemsText_append, closed]
  have hfails : Fails quotes 0 (gap ++ quote :: content) _ [] := .unclosed hgap hquote hcontent
  have hshields : Shields (gap ++ quote :: content) (before ++ quote :: after) :=
    hfails.shields nofun _
  have hall : Apart (items ++ [closed]) after := by
    have hfirst := hapart.append hshields
    refine apart_append_iff.2 ⟨?_, id, trivial⟩
    simpa [closed] using hfirst
  intro h
  rw [htext, cut_items hall] at h
  cases hrest : cut quotes after (offset + byteLength (itemsText (items ++ [closed]))) with
  | ok ts =>
    rw [hrest] at h
    cases h
  | error e =>
    rw [hrest] at h
    obtain rfl := Except.error.inj h
    have hle := le_position_of_cut_eq_error hrest
    have hpos := Char.utf8Size_pos quote
    simp only [LexicalError.position, itemsText_append, itemsText_cons, itemsText_nil,
      byteLength_append, byteLength_cons, closed] at hle
    omega

/-! ## What an error tells -/

/-- What an error tells of the text, and of every text that begins with it. -/
inductive ExactError (dialect : Dialect) (source : String) : LexicalError → Prop
  /-- A character that begins no lexeme, which stays so if there is one behind it. -/
  | unexpectedCharacter {front rest : List Char} {c : Char} {position : Nat}
      (hsplit : splitBytes position source.toList = some (front, c :: rest))
      (hblank : isBlank c = false) (hbegins : BeginsNothing dialect.quotes c rest)
      (hstable : rest ≠ [] → ∀ more,
        tokenize dialect (source ++ more) = .error (.unexpectedCharacter c position)) :
      ExactError dialect source (.unexpectedCharacter c position)
  /-- A quote that opens a string and does not come again, which stays so until it does. -/
  | unterminatedString {front content : List Char} {quote : Char} {position : Nat}
      (hsplit : splitBytes position source.toList = some (front, quote :: content))
      (hquote : dialect.quotes.accepts quote = true) (hcontent : quote ∉ content)
      (hstable : ∀ more : String,
        tokenize dialect (source ++ more) = .error (.unterminatedString quote position) ↔
          quote ∉ more.toList) :
      ExactError dialect source (.unterminatedString quote position)

/-- An error tells of a character of the text, and it is the error of every text that begins with
this one, unless the text behind mends it. -/
theorem exactError_of_tokenize {dialect : Dialect} {source : String} {e : LexicalError}
    (h : tokenize dialect source = .error e) : ExactError dialect source e := by
  obtain ⟨items, rest, after, hsource, hapart, hfails⟩ := exists_fails_of_cut h
  have htokenize : ∀ more : String, tokenize dialect (source ++ more) =
      cut dialect.quotes (itemsText items ++ rest ++ more.toList) 0 := by
    intro more
    show cut dialect.quotes (source ++ more).toList 0 = _
    rw [String.toList_append, hsource]
  cases hfails with
  | stray hgap hblank hbegins =>
    refine .unexpectedCharacter (splitBytes_behind hsource) hblank hbegins ?_
    intro hafter more
    rw [htokenize more]
    exact cut_append_of_not_last hapart (.stray hgap hblank hbegins) (fun _ _ _ => hafter) nofun
  | unclosed hgap hquote hcontent =>
    refine .unterminatedString (splitBytes_behind hsource) hquote hcontent ?_
    intro more
    rw [htokenize more]
    constructor
    · intro hsame hmem
      exact cut_append_ne_of_mem hgap hquote hcontent hapart hmem hsame
    · intro hnone
      refine cut_append_of_not_last hapart (.unclosed hgap hquote hcontent) nofun ?_
      rintro quote' position heq
      obtain ⟨rfl, -⟩ := LexicalError.unterminatedString.inj heq
      exact hnone

/-- A number has one point, and the second is an error that no text behind mends. -/
theorem exactError_second_point :
    tokenize .lenient "é 1.2.3" = .error (.unexpectedCharacter '.' 6) ∧
      splitBytes 6 "é 1.2.3".toList = some ("é 1.2".toList, ".3".toList) ∧
      ∀ more, tokenize .lenient ("é 1.2.3" ++ more) = .error (.unexpectedCharacter '.' 6) := by
  have h : tokenize .lenient "é 1.2.3" = .error (.unexpectedCharacter '.' 6) := by
    decide +kernel
  have hcut : splitBytes 6 "é 1.2.3".toList = some ("é 1.2".toList, ".3".toList) := by decide
  cases exactError_of_tokenize h with
  | unexpectedCharacter hsplit hblank hbegins hstable =>
    obtain ⟨rfl, hrest⟩ := Prod.mk.inj (Option.some.inj (hsplit.symm.trans hcut))
    refine ⟨h, hcut, hstable ?_⟩
    rintro rfl
    exact absurd hrest (by decide)

/-- At the end of a text a point can still become part of a number. -/
example :
    tokenize .lenient "1." = .error (.unexpectedCharacter '.' 1) ∧
      tokenize .lenient ("1." ++ "5") = .ok [⟨.number, "1.5", ⟨0, 3⟩⟩, .eof 3] := by
  decide +kernel

end SelectLang

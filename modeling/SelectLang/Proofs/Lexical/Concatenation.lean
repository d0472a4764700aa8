import SelectLang.Proofs.Lexical.Incremental

/-!
# Texts one after the other

How a text is cut when another text stands before it or behind it.  Blanks in front move all tokens
and errors to the right (`cut_gap_append`, `cut_add`).  A text that begins with a blank, or none at
all, makes no lexeme before it longer: behind a text that is cut into tokens it is cut by itself
(`cut_append_of_ok`), and an error before it stays what it is (`cut_append_of_error`), unless it
closes a string that was not closed.  So two texts with a gap between them are cut as they are by
themselves (`cutsJoined_of_isBlank`).
-/

namespace SelectLang

open Text

variable {quotes : QuoteStyle}

/-! ## Where no token is pulled -/

/-- The text, which stands at the offset, begins with no token but with this error; the last text
is what stands behind it. -/
inductive Fails (quotes : QuoteStyle) (offset : Nat) :
    List Char → LexicalError → List Char → Prop
  | stray {gap rest : List Char} {c : Char} (hgap : ∀ d ∈ gap, isBlank d = true)
      (hblank : isBlank c = false) (hbegins : BeginsNothing quotes c rest) :
      Fails quotes offset (gap ++ c :: rest)
        (.unexpectedCharacter c (offset + byteLength gap)) rest
  | unclosed {gap content : List Char} {quote : Char} (hgap : ∀ d ∈ gap, isBlank d = true)
      (hquote : quotes.accepts quote = true) (hcontent : quote ∉ content) :
      Fails quotes offset (gap ++ quote :: content)
        (.unterminatedString quote (offset + byteLength gap)) []

theorem fails_of_pull {cs : List Char} {offset : Nat} {e : LexicalError} {left : TokenStream}
    (h : (TokenStream.mk quotes cs offset false).pull = (.error e, left)) :
    Fails quotes offset cs e left.rest := by
  rcases isBlank_or_exists_scan? quotes cs with
    hblank | ⟨gap, text, ⟨piece, spelling, rest⟩, rfl, hgap, htext, hfound⟩
  · rw [pull_of_isBlank hblank] at h
    cases (Prod.mk.inj h).1
  · rw [pull_of_scan? hgap htext hfound] at h
    obtain ⟨hanswer, rfl⟩ := Prod.mk.inj h
    cases piece with
    | lexeme kind text => cases hanswer
    | stray c =>
      obtain rfl := Except.error.inj hanswer
      obtain ⟨rfl, -, hbegins⟩ := beginsNothing_of_scan? hfound
      exact .stray hgap (htext c rfl) hbegins
    | unclosed quote =>
      obtain rfl := Except.error.inj hanswer
      obtain ⟨content, rfl, -, rfl, hquote, hcontent⟩ := unclosed_of_scan? hfound
      exact .unclosed hgap hquote hcontent

theorem cut_of_fails {cs rest : List Char} {offset : Nat} {e : LexicalError}
    (h : Fails quotes offset cs e rest) : cut quotes cs offset = .error e := by
  cases h with
  | stray hgap hblank hbegins => exact cut_stray hgap hblank hbegins.scan?
  | @unclosed gap content quote hgap hquote hcontent =>
    have hhead : ∀ d ∈ (quote :: content).head?, isBlank d = false := by
      intro d hd
      rw [← Option.some.inj hd]
      exact isBlank_eq_false_of_accepts hquote
    exact cut_of_pull_eq_error (pull_of_scan? hgap hhead (scan?_unclosed hquote hcontent))

/-- A text that is not cut is laid out as lexemes and gaps up to the error. -/
theorem exists_fails_of_cut {cs : List Char} {offset : Nat} {e : LexicalError}
    (h : cut quotes cs offset = .error e) :
    ∃ (items : List (Item quotes)) (rest after : List Char),
      cs = itemsText items ++ rest ∧ Apart items rest ∧
        Fails quotes (offset + byteLength (itemsText items)) rest e after := by
  obtain ⟨items, rest, left, hcs, hapart, hpull⟩ := exists_pull_of_cut_eq_error h
  exact ⟨items, rest, left.rest, hcs, hapart, fails_of_pull hpull⟩

/-! ## Moving -/

/-- The error moved to the right. -/
def LexicalError.shift (offset : Nat) : LexicalError → LexicalError
  | .unexpectedCharacter c position => .unexpectedCharacter c (position + offset)
  | .unterminatedString quote position => .unterminatedString quote (position + offset)

/-- The tokens, or the error, moved to the right. -/
def moved (offset : Nat) : Except LexicalError (List Token) → Except LexicalError (List Token)
  | .ok ts => .ok (ts.map (Token.shift offset))
  | .error e => .error (e.shift offset)

theorem shift_eof (offset n : Nat) : Token.shift n (.eof offset) = .eof (offset + n) := rfl

theorem place_add (offset n : Nat) (items : List (Item quotes)) :
    place (offset + n) items = (place offset items).map (Token.shift n) := by
  induction items generalizing offset with
  | nil => rfl
  | cons item items ih =>
    have hstart : offset + n + byteLength item.gap.val = offset + byteLength item.gap.val + n := by
      omega
    have hstop : offset + byteLength item.gap.val + n + byteLength item.lexeme.spelling =
        offset + byteLength item.gap.val + byteLength item.lexeme.spelling + n := by
      omega
    simp only [place, hstart, hstop, ih, List.map_cons]
    rfl

theorem Fails.add {cs rest : List Char} {offset : Nat} {e : LexicalError}
    (h : Fails quotes offset cs e rest) (n : Nat) :
    Fails quotes (offset + n) cs (e.shift n) rest := by
  cases h with
  | stray hgap hblank hbegins =>
    have hfails := @Fails.stray quotes (offset + n) _ _ _ hgap hblank hbegins
    rwa [Nat.add_right_comm] at hfails
  | unclosed hgap hquote hcontent =>
    have hfails := @Fails.unclosed quotes (offset + n) _ _ _ hgap hquote hcontent
    rwa [Nat.add_right_comm] at hfails

/-- A text is cut in the same way wherever it stands. -/
theorem cut_add (cs : List Char) (offset n : Nat) :
    cut quotes cs (offset + n) = moved n (cut quotes cs offset) := by
  cases hcut : cut quotes cs offset with
  | ok ts =>
    obtain ⟨items, trailing, rfl, hapart, rfl⟩ := exists_items_of_cut hcut
    have hstop : offset + n + byteLength (itemsText items) + byteLength trailing.val =
        offset + byteLength (itemsText items ++ trailing.val) + n := by
      rw [byteLength_append]
      omega
    rw [cut_items hapart, cut_of_isBlank trailing.property, place_add, hstop]
    simp [moved, Except.map, shift_eof]
  | error e =>
    obtain ⟨items, rest, after, rfl, hapart, hfails⟩ := exists_fails_of_cut hcut
    have hmoved := hfails.add n
    rw [Nat.add_right_comm] at hmoved
    rw [cut_items hapart, cut_of_fails hmoved]
    rfl

/-! ## Blanks in front -/

theorem pull_gap_append {gap : List Char} (hgap : ∀ c ∈ gap, isBlank c = true) (cs : List Char)
    (offset : Nat) (exhausted : Bool) :
    (TokenStream.mk quotes (gap ++ cs) offset exhausted).pull =
      (TokenStream.mk quotes cs (offset + byteLength gap) exhausted).pull := by
  have htake : (gap ++ cs).takeWhile isBlank = gap ++ cs.takeWhile isBlank :=
    List.takeWhile_append_of_pos hgap
  have htrim : trimFront (gap ++ cs) = trimFront cs := List.dropWhile_append_of_pos hgap
  simp only [TokenStream.pull, htake, htrim, byteLength_append, Nat.add_assoc]

/-- Blanks in front of a text only move its tokens. -/
theorem cut_gap_append {gap : List Char} (hgap : ∀ c ∈ gap, isBlank c = true) (cs : List Char)
    (offset : Nat) : cut quotes (gap ++ cs) offset = cut quotes cs (offset + byteLength gap) := by
  have hpull := @pull_gap_append quotes gap hgap cs offset false
  rcases hcs : (TokenStream.mk quotes cs (offset + byteLength gap) false).pull with ⟨answer, left⟩
  rw [hcs] at hpull
  cases answer with
  | error e => rw [cut_of_pull_eq_error hpull, cut_of_pull_eq_error hcs]
  | ok token => rw [cut_of_pull_eq_ok hpull, cut_of_pull_eq_ok hcs]

/-! ## Text behind -/

/-- No lexeme in front of the first text is made longer by the second: a number is the only lexeme
that looks further than one character, at what stands behind a point. -/
def Shields (rest more : List Char) : Prop :=
  (∀ c ∈ more.head?, isBlank c = true) ∨ (rest ≠ [] ∧ rest ≠ ['.'])

theorem Shields.append {rest more : List Char} (h : Shields rest more) (cs : List Char) :
    Shields (cs ++ rest) more := by
  rcases h with hblank | ⟨hne, hpoint⟩
  · exact Or.inl hblank
  · right
    rw [ne_eq, ne_eq, List.append_eq_nil_iff, List.append_eq_singleton_iff]
    simp [hne, hpoint]

theorem not_runsOn_append {kind : Kind} {spelling rest more : List Char}
    (h : ¬ RunsOn kind spelling rest) (hmore : Shields rest more) :
    ¬ RunsOn kind spelling (rest ++ more) := by
  cases rest with
  | nil =>
    rcases hmore with hblank | ⟨hne, -⟩
    · exact not_runsOn_of_isBlank hblank
    · exact absurd rfl hne
  | cons c cs =>
    intro hlonger
    apply h
    unfold RunsOn at hlonger ⊢
    split at hlonger
    · exact hlonger
    · exact hlonger
    · rcases hlonger with hdigit | ⟨hpoint, d, others, hcs, hd⟩
      · exact Or.inl hdigit
      · -- a point and a digit: the digit may stand in the text behind
        obtain ⟨rfl, htail⟩ := List.cons.inj hcs
        cases cs with
        | nil =>
          obtain rfl : more = d :: others := htail
          rcases hmore with hblank | ⟨-, hne⟩
          · have hword := continuesWord_of_isDigit hd
            rw [continuesWord_eq_false_of_isBlank (hblank d rfl)] at hword
            cases hword
          · exact absurd rfl hne
        | cons d' cs =>
          obtain ⟨rfl, -⟩ := List.cons.inj htail
          exact Or.inr ⟨hpoint, d', cs, rfl, hd⟩
    · exact hlonger
    · exact hlonger
    · exact hlonger

theorem Apart.append {items : List (Item quotes)} {rest more : List Char} (h : Apart items rest)
    (hmore : Shields rest more) : Apart items (rest ++ more) := by
  induction items with
  | nil => trivial
  | cons item items ih =>
    obtain ⟨hitem, hitems⟩ := h
    refine ⟨?_, ih hitems⟩
    rw [← List.append_assoc]
    exact not_runsOn_append hitem (hmore.append _)

/-- Behind a text that is cut into tokens, a text is cut by itself. -/
theorem cut_append_of_ok {cs more : List Char} {offset : Nat} {ts : List Token}
    (h : cut quotes cs offset = .ok ts) (hmore : ∀ c ∈ more.head?, isBlank c = true) :
    cut quotes (cs ++ more) offset =
      (cut quotes more (offset + byteLength cs)).map (ts.dropLast ++ ·) := by
  obtain ⟨items, trailing, rfl, hapart, rfl⟩ := exists_items_of_cut h
  rw [List.append_assoc, cut_items (hapart.append (Or.inl hmore)),
    cut_gap_append trailing.property, byteLength_append, Nat.add_assoc, List.dropLast_concat]

/-- The text after the error does not mend it: it does not make a symbol of a last character, and
does not close the string. -/
def LexicalError.Outlasts (rest more : List Char) : LexicalError → Prop
  | .unexpectedCharacter _ _ => rest = [] → more.head? ≠ some '='
  | .unterminatedString quote _ => quote ∉ more

theorem BeginsNothing.append {c : Char} {rest more : List Char} (h : BeginsNothing quotes c rest)
    (hmore : rest = [] → more.head? ≠ some '=') : BeginsNothing quotes c (rest ++ more) := by
  refine ⟨h.notMem, fun hc => ?_, h.accepts, h.isDigit, h.beginsWord⟩
  cases rest with
  | nil => exact hmore rfl
  | cons d cs => exact h.head?_ne hc

theorem Fails.append {cs rest more : List Char} {offset : Nat} {e : LexicalError}
    (h : Fails quotes offset cs e rest) (hmore : e.Outlasts rest more) :
    ∃ after, Fails quotes offset (cs ++ more) e after := by
  cases h with
  | stray hgap hblank hbegins =>
    rw [List.append_assoc]
    exact ⟨_, .stray hgap hblank (hbegins.append hmore)⟩
  | unclosed hgap hquote hcontent =>
    rw [List.append_assoc]
    exact ⟨_, .unclosed hgap hquote (List.not_mem_append hcontent hmore)⟩

/-- An error stays what it is behind lexemes that the text behind makes no longer. -/
theorem cut_append_of_fails {items : List (Item quotes)} {rest after more : List Char}
    {offset : Nat} {e : LexicalError} (hapart : Apart items rest)
    (hfails : Fails quotes (offset + byteLength (itemsText items)) rest e after)
    (hmore : Shields rest more) (houtlasts : e.Outlasts after more) :
    cut quotes (itemsText items ++ rest ++ more) offset = .error e := by
  obtain ⟨after', hfails'⟩ := hfails.append houtlasts
  rw [List.append_assoc, cut_items (hapart.append hmore), cut_of_fails hfails']
  rfl

/-- An error stays what it is, unless it is a string that is closed now. -/
theorem cut_append_of_error {cs more : List Char} {offset : Nat} {e : LexicalError}
    (h : cut quotes cs offset = .error e) (hmore : ∀ c ∈ more.head?, isBlank c = true)
    (hquote : ∀ quote position, e = .unterminatedString quote position → quote ∉ more) :
    cut quotes (cs ++ more) offset = .error e := by
  obtain ⟨items, rest, after, rfl, hapart, hfails⟩ := exists_fails_of_cut h
  apply cut_append_of_fails hapart hfails (Or.inl hmore)
  cases e with
  | unexpectedCharacter c position =>
    intro _ heq
    exact absurd (hmore '=' heq) (by decide)
  | unterminatedString quote position => exact hquote quote position rfl

/-- Blanks close no string: a quote that opens one is none. -/
theorem notMem_of_unclosed {cs gap : List Char} {offset position : Nat} {quote : Char}
    (h : cut quotes cs offset = .error (.unterminatedString quote position))
    (hgap : ∀ c ∈ gap, isBlank c = true) : quote ∉ gap := by
  intro hmem
  obtain ⟨items, rest, after, -, -, hfails⟩ := exists_fails_of_cut h
  cases hfails with
  | unclosed _ hquote _ =>
    have hblank := isBlank_eq_false_of_accepts hquote
    simp [hgap quote hmem] at hblank

/-! ## Texts that are joined by blanks -/

/-- A text is cut into tokens with the end marker at its end. -/
theorem exists_tokens_of_tokenize {dialect : Dialect} {source : String} {ts : List Token}
    (h : tokenize dialect source = .ok ts) :
    ∃ us, ts = us ++ [.eof source.utf8ByteSize] ∧ ∀ token ∈ us, token.kind ≠ .eof := by
  obtain ⟨items, trailing, -, -, rfl⟩ := exists_items_of_cut h
  rw [byteLength_toList, Nat.zero_add]
  exact ⟨place 0 items, rfl, fun token htoken => kind_ne_eof_of_mem_place htoken⟩

/-- How two texts are cut that stand one after the other with a gap between them. -/
structure CutsJoined (dialect : Dialect) (first gap second : String) : Prop where
  /-- Behind the tokens of the first text stand those of the second, moved to the right, or its
  error does. -/
  tokens : ∀ ts, tokenize dialect first = .ok ts →
    ∃ before, ts = before ++ [.eof first.utf8ByteSize] ∧
      (∀ us, tokenize dialect second = .ok us →
        tokenize dialect (first ++ gap ++ second) =
          .ok (before ++ us.map (Token.shift (first ++ gap).utf8ByteSize))) ∧
      ∀ e, tokenize dialect second = .error e →
        tokenize dialect (first ++ gap ++ second) =
          .error (e.shift (first ++ gap).utf8ByteSize)
  /-- A character that begins nothing does so whatever text stands behind the gap. -/
  unexpectedCharacter : ∀ c position,
    tokenize dialect first = .error (.unexpectedCharacter c position) →
      tokenize dialect (first ++ gap ++ second) = .error (.unexpectedCharacter c position)
  /-- A string that is not closed remains so, unless the second text closes it. -/
  unterminatedString : ∀ quote position,
    tokenize dialect first = .error (.unterminatedString quote position) →
      quote ∉ second.toList →
        tokenize dialect (first ++ gap ++ second) = .error (.unterminatedString quote position)

/-- The tokens of two texts with a gap between them are those of the one and then, moved, those of
the other; and an error in the first text stays as it is, unless it is a string that the second text
closes. -/
theorem cutsJoined_of_isBlank (dialect : Dialect) {gap : String} (hne : gap ≠ "")
    (hgap : ∀ c ∈ gap.toList, isBlank c = true) (first second : String) :
    CutsJoined dialect first gap second := by
  have hhead : ∀ c ∈ (gap.toList ++ second.toList).head?, isBlank c = true := by
    rw [List.head?_append_of_ne_nil _ (by simpa using hne)]
    exact fun c hc => hgap c (List.mem_of_mem_head? hc)
  have htext : ∀ {r : Except LexicalError (List Token)},
      cut dialect.quotes (first.toList ++ (gap.toList ++ second.toList)) 0 = r →
        tokenize dialect (first ++ gap ++ second) = r := by
    intro r hcut
    show cut dialect.quotes (first ++ gap ++ second).toList 0 = r
    rw [String.toList_append, String.toList_append, List.append_assoc]
    exact hcut
  constructor
  · intro ts hfirst
    obtain ⟨before, rfl, -⟩ := exists_tokens_of_tokenize hfirst
    -- the second text is cut as it is by itself, from behind the gap on
    have hbehind : tokenize dialect (first ++ gap ++ second) =
        (moved (first ++ gap).utf8ByteSize (tokenize dialect second)).map (before ++ ·) := by
      apply htext
      have hlength : byteLength first.toList + byteLength gap.toList =
          (first ++ gap).utf8ByteSize := by
        rw [← byteLength_toList, String.toList_append, byteLength_append]
      rw [cut_append_of_ok hfirst hhead, cut_gap_append hgap, Nat.add_assoc, hlength, cut_add,
        List.dropLast_concat]
      rfl
    refine ⟨before, rfl, ?_, ?_⟩
    · intro us hsecond
      rw [hbehind, hsecond]
      rfl
    · intro e hsecond
      rw [hbehind, hsecond]
      rfl
  · intro c position hfirst
    exact htext (cut_append_of_error hfirst hhead nofun)
  · intro quote position hfirst hquote
    apply htext
    apply cut_append_of_error hfirst hhead
    rintro quote' position' heq
    obtain ⟨rfl, -⟩ := LexicalError.unterminatedString.inj heq
    exact List.not_mem_append (notMem_of_unclosed hfirst hgap) hquote

/-- A blank keeps two symbols apart that would make one, and moves what stands behind it by its
bytes. -/
theorem cutsJoined_less_equal :
    "\u2003" ≠ "" ∧ (∀ c ∈ "\u2003".toList, isBlank c = true) ∧
      tokenize .lenient "é <" =
        .ok [⟨.identifier, "é", ⟨0, 2⟩⟩, ⟨.comparator .lt, "<", ⟨3, 4⟩⟩, .eof 4] ∧
      tokenize .lenient "= 'x'" =
        .ok [⟨.comparator .eq, "=", ⟨0, 1⟩⟩, ⟨.string, "x", ⟨2, 5⟩⟩, .eof 5] ∧
      tokenize .lenient ("é <" ++ "\u2003" ++ "= 'x'") =
        .ok [⟨.identifier, "é", ⟨0, 2⟩⟩, ⟨.comparator .lt, "<", ⟨3, 4⟩⟩,
          ⟨.comparator .eq, "=", ⟨7, 8⟩⟩, ⟨.string, "x", ⟨9, 12⟩⟩, .eof 12] := by
  have hne : "\u2003" ≠ "" := by decide
  have hgap : ∀ c ∈ "\u2003".toList, isBlank c = true :=
    List.forall_mem_singleton.2 (by decide)
  have hfirst : tokenize .lenient "é <" =
      .ok [⟨.identifier, "é", ⟨0, 2⟩⟩, ⟨.comparator .lt, "<", ⟨3, 4⟩⟩, .eof 4] := by
    decide +kernel
  have hsecond : tokenize .lenient "= 'x'" =
      .ok [⟨.comparator .eq, "=", ⟨0, 1⟩⟩, ⟨.string, "x", ⟨2, 5⟩⟩, .eof 5] := by
    decide +kernel
  obtain ⟨before, hbefore, hbehind, -⟩ :=
    (cutsJoined_of_isBlank .lenient hne hgap "é <" "= 'x'").tokens _ hfirst
  have htokens := congrArg List.dropLast hbefore
  rw [List.dropLast_concat] at htokens
  obtain rfl := htokens
  exact ⟨hne, hgap, hfirst, hsecond, hbehind _ hsecond⟩

end SelectLang

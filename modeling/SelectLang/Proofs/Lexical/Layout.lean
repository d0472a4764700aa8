import SelectLang.Proofs.Lexical.Scan
import SelectLang.Token.Stream

/-!
# Cutting a text along a layout

A text is cut into tokens exactly if it can be laid out as lexemes and gaps, and then into the
tokens of the layout (`tokenize_eq_ok_iff_layout`).  One pull takes the first gap and the first
lexeme; lexemes in front of a text, be it cut well or not, add their tokens to the result
(`cut_items`).
-/

namespace SelectLang

open Text

variable {quotes : QuoteStyle}

/-! ## First characters -/

/-- What the first character of a lexeme tells of its kind. -/
structure Heads (c : Char) (kind : Kind) : Prop where
  isBlank : isBlank c = false
  ne_point : c ≠ '.'
  continuesWord_iff : continuesWord c = true ↔ kind.IsOfWord ∨ kind = .number
  isDigit_iff : c.isDigit = true ↔ kind = .number
  eq_iff : c = '=' ↔ kind = .comparator .eq
  gt_iff : c = '>' ↔ kind = .comparator .gt ∨ kind = .comparator .ge

theorem isBlank_eq_false_of_continuesWord {c : Char} (h : continuesWord c = true) :
    isBlank c = false := by
  rw [Bool.eq_false_iff]
  intro hblank
  rw [continuesWord_eq_false_of_isBlank hblank] at h
  cases h

theorem heads_of_word {c : Char} {kind : Kind} (hc : beginsWord c = true) (hkind : kind.IsOfWord) :
    Heads c kind := by
  have hword := continuesWord_of_beginsWord hc
  have hother : ∀ d ∈ marks, c ≠ d := fun d => ne_of_continuesWord hword
  have hnumber : kind ≠ .number := by
    rintro rfl
    exact hkind
  have hcomparator : ∀ op, kind ≠ .comparator op := by
    rintro op rfl
    exact hkind
  refine ⟨isBlank_eq_false_of_continuesWord hword, hother _ (by decide), ?_, ?_, ?_, ?_⟩
  · simp [hword, hkind]
  · simp [isDigit_eq_false_of_beginsWord hc, hnumber]
  · simp [hother '=' (by decide), hcomparator]
  · simp [hother '>' (by decide), hcomparator]

theorem heads_of_digit {c : Char} (hc : c.isDigit = true) : Heads c .number := by
  have hword := continuesWord_of_isDigit hc
  have hother : ∀ d ∈ marks, c ≠ d := fun d => ne_of_continuesWord hword
  refine ⟨isBlank_eq_false_of_continuesWord hword, hother _ (by decide), ?_, ?_, ?_, ?_⟩
  · simp [hword]
  · simp [hc]
  · simp [hother '=' (by decide)]
  · simp [hother '>' (by decide)]

theorem heads_of_quote {c : Char} (hc : quotes.accepts c = true) : Heads c .string := by
  rcases eq_of_accepts hc with rfl | rfl <;>
    exact ⟨by decide, by decide, by decide, by decide, by decide, by decide⟩

theorem heads_of_symbol {spelling : String} {kind : Kind} (h : IsSymbol spelling kind) :
    ∃ c cs, spelling.toList = c :: cs ∧ Heads c kind := by
  cases h <;>
    exact ⟨_, _, rfl, by decide, by decide, by decide, by decide, by decide, by decide⟩

/-- A lexeme begins with a character that tells of its kind. -/
theorem heads_of_isLexeme {spelling : List Char} {kind : Kind} {text : String}
    (h : IsLexeme quotes spelling kind text) : ∃ c cs, spelling = c :: cs ∧ Heads c kind := by
  cases h with
  | keyword k hword _ =>
    obtain ⟨c, cs, rfl, hc, -⟩ := isWord_iff.1 hword
    exact ⟨c, cs, rfl, heads_of_word hc trivial⟩
  | name hword _ =>
    obtain ⟨c, cs, rfl, hc, -⟩ := isWord_iff.1 hword
    exact ⟨c, cs, rfl, heads_of_word hc trivial⟩
  | number hdigits =>
    obtain ⟨c, cs, rfl, hc⟩ := exists_head_of_isNumber hdigits
    exact ⟨c, cs, rfl, heads_of_digit hc⟩
  | string hquote _ => exact ⟨_, _, rfl, heads_of_quote hquote⟩
  | symbol hsymbol => exact heads_of_symbol hsymbol

/-! ## Lexemes apart -/

/-- The lexeme that follows fuses with the one before it exactly if it makes it longer. -/
theorem runsOn_iff_fuses {first second : Kind} {spelling : List Char} {c : Char} {cs : List Char}
    (hc : Heads c second) : RunsOn first spelling (c :: cs) ↔ Fuses first second := by
  have hpoint : ∀ d more, c :: cs ≠ '.' :: d :: more := by
    intro d more h
    exact hc.ne_point (List.cons.inj h).1
  cases first with
  | comparator op =>
    cases op <;> simp [RunsOn, Fuses, Kind.IsOfWord, hc.eq_iff, hc.gt_iff]
  | _ => simp [RunsOn, Fuses, Kind.IsOfWord, hc.continuesWord_iff, hc.isDigit_iff, hpoint]

/-- A blank makes no lexeme longer, and neither does the end of the text. -/
theorem not_runsOn_of_isBlank {kind : Kind} {spelling rest : List Char}
    (h : ∀ c ∈ rest.head?, isBlank c = true) : ¬ RunsOn kind spelling rest := by
  have hdigit : ∀ c, isBlank c = true → c.isDigit = false := by
    intro c hc
    rw [Bool.eq_false_iff]
    intro hdigit
    have hword := continuesWord_of_isDigit hdigit
    rw [continuesWord_eq_false_of_isBlank hc] at hword
    cases hword
  have hpoint : ∀ d more, rest ≠ '.' :: d :: more := by
    rintro d more rfl
    exact absurd (h '.' rfl) (by decide)
  cases rest with
  | nil => rcases kind with _ | _ | _ | _ | _ | _ | _ | (_ | _) | _ <;> simp [RunsOn]
  | cons c cs =>
    have hc := h c rfl
    have hne : c ≠ '=' ∧ c ≠ '>' := by
      constructor <;> rintro rfl <;> revert hc <;> decide
    rcases kind with _ | _ | _ | _ | _ | _ | _ | (_ | _) | _ <;>
      simp [RunsOn, continuesWord_eq_false_of_isBlank hc, hdigit c hc, hne, hpoint]

/-- No lexeme in the text is made longer by what follows it. -/
def Apart : List (Item quotes) → List Char → Prop
  | [], _ => True
  | item :: items, rest =>
      ¬ RunsOn item.lexeme.kind item.lexeme.spelling (itemsText items ++ rest) ∧ Apart items rest

theorem not_runsOn_item_iff {kind : Kind} {spelling rest : List Char} (item : Item quotes) :
    ¬ RunsOn kind spelling (item.gap.val ++ (item.lexeme.spelling ++ rest)) ↔
      (item.gap.val = [] → ¬ Fuses kind item.lexeme.kind) := by
  obtain ⟨⟨gap, hgap⟩, lexeme⟩ := item
  cases gap with
  | nil =>
    obtain ⟨c, cs, hcs, hc⟩ := heads_of_isLexeme lexeme.isLexeme
    simp [hcs, runsOn_iff_fuses hc]
  | cons c cs =>
    have hblank : ¬ RunsOn kind spelling (c :: (cs ++ (lexeme.spelling ++ rest))) :=
      not_runsOn_of_isBlank (by simpa using hgap c)
    simp [hblank]

/-- Before blanks or the end of the text, it is enough that neighbours are apart. -/
theorem apart_iff_isChain {items : List (Item quotes)} {rest : List Char}
    (hrest : ∀ c ∈ rest.head?, isBlank c = true) :
    Apart items rest ↔
      items.IsChain fun x y => y.gap.val = [] → ¬ Fuses x.lexeme.kind y.lexeme.kind := by
  induction items with
  | nil => simp [Apart]
  | cons item items ih =>
    cases items with
    | nil => simp [Apart, not_runsOn_of_isBlank hrest]
    | cons next items =>
      rw [Apart, ih, List.isChain_cons_cons, itemsText_cons, List.append_assoc, List.append_assoc,
        not_runsOn_item_iff]

/-! ## Cutting -/

theorem kind_ne_eof_of_isLexeme {spelling : List Char} {kind : Kind} {text : String}
    (h : IsLexeme quotes spelling kind text) : kind ≠ .eof := by
  rintro rfl
  cases h with
  | symbol hsymbol => cases hsymbol

theorem exists_isLexeme_of_mem_place {items : List (Item quotes)} {offset : Nat} {token : Token}
    (h : token ∈ place offset items) :
    ∃ spelling, IsLexeme quotes spelling token.kind token.text := by
  induction items generalizing offset with
  | nil => cases h
  | cons item items ih =>
    rcases List.mem_cons.1 h with rfl | h
    · exact ⟨_, item.lexeme.isLexeme⟩
    · exact ih h

theorem kind_ne_eof_of_mem_place {items : List (Item quotes)} {offset : Nat} {token : Token}
    (h : token ∈ place offset items) : token.kind ≠ .eof := by
  obtain ⟨spelling, hlexeme⟩ := exists_isLexeme_of_mem_place h
  exact kind_ne_eof_of_isLexeme hlexeme

/-- The tokens of a text from an offset on, or the first error. -/
def cut (quotes : QuoteStyle) (cs : List Char) (offset : Nat) :
    Except LexicalError (List Token) :=
  (TokenStream.mk quotes cs offset false).drain.1

theorem takeWhile_isBlank_item (item : Item quotes) (rest : List Char) :
    (item.gap.val ++ (item.lexeme.spelling ++ rest)).takeWhile isBlank = item.gap.val ∧
      trimFront (item.gap.val ++ (item.lexeme.spelling ++ rest)) =
        item.lexeme.spelling ++ rest := by
  obtain ⟨c, cs, hcs, hc⟩ := heads_of_isLexeme item.lexeme.isLexeme
  have hhead : ∀ d ∈ (item.lexeme.spelling ++ rest).head?, isBlank d = false := by
    intro d hd
    rw [hcs] at hd
    obtain rfl := Option.some.inj hd
    exact hc.isBlank
  exact ⟨takeWhile_append_of_head item.gap.property hhead,
    dropWhile_append_of_head item.gap.property hhead⟩

/-- One pull takes the first gap and the first lexeme. -/
theorem pull_item {item : Item quotes} {rest : List Char} {offset : Nat} {exhausted : Bool}
    (h : ¬ RunsOn item.lexeme.kind item.lexeme.spelling rest) :
    (TokenStream.mk quotes (item.gap.val ++ (item.lexeme.spelling ++ rest)) offset exhausted).pull =
      (.ok ⟨item.lexeme.kind, item.lexeme.text,
        ⟨offset + byteLength item.gap.val,
          offset + byteLength item.gap.val + byteLength item.lexeme.spelling⟩⟩,
        ⟨quotes, rest, offset + byteLength item.gap.val + byteLength item.lexeme.spelling,
          exhausted⟩) := by
  obtain ⟨htake, htrim⟩ := takeWhile_isBlank_item item rest
  have hscan := scan?_append item.lexeme.isLexeme h
  simp only [TokenStream.pull, htake, htrim, hscan]

/-- Behind a gap a pull answers for the piece that is scanned there. -/
theorem pull_of_scan? {gap text : List Char} {offset : Nat} {exhausted : Bool} {found : Scan}
    (hgap : ∀ c ∈ gap, isBlank c = true) (htext : ∀ c ∈ text.head?, isBlank c = false)
    (hfound : scan? quotes text = some found) :
    (TokenStream.mk quotes (gap ++ text) offset exhausted).pull =
      (match found.piece with
        | .lexeme kind text =>
            .ok ⟨kind, text, ⟨offset + byteLength gap,
              offset + byteLength gap + byteLength found.spelling⟩⟩
        | .stray c => .error (.unexpectedCharacter c (offset + byteLength gap))
        | .unclosed quote => .error (.unterminatedString quote (offset + byteLength gap)),
      ⟨quotes, found.rest, offset + byteLength gap + byteLength found.spelling, exhausted⟩) := by
  have htake := takeWhile_append_of_head hgap htext
  have htrim : trimFront (gap ++ text) = text := dropWhile_append_of_head hgap htext
  obtain ⟨piece, spelling, rest⟩ := found
  simp only [TokenStream.pull, htake, htrim, hfound]
  cases piece <;> rfl

/-- At the end of a text a pull finds the end marker. -/
theorem pull_of_isBlank {cs : List Char} {offset : Nat} {exhausted : Bool}
    (h : ∀ c ∈ cs, isBlank c = true) :
    (TokenStream.mk quotes cs offset exhausted).pull =
      (.ok (.eof (offset + byteLength cs)), ⟨quotes, [], offset + byteLength cs, true⟩) := by
  have htake : cs.takeWhile isBlank = cs := List.takeWhile_eq_self_iff.2 h
  have htrim : trimFront cs = [] := List.dropWhile_eq_nil_iff.2 h
  simp only [TokenStream.pull, htake, htrim]
  rfl

/-- A text holds blanks alone, or behind those at its front a piece is scanned. -/
theorem isBlank_or_exists_scan? (quotes : QuoteStyle) (cs : List Char) :
    (∀ c ∈ cs, isBlank c = true) ∨
      ∃ gap text found, cs = gap ++ text ∧ (∀ c ∈ gap, isBlank c = true) ∧
        (∀ c ∈ text.head?, isBlank c = false) ∧ scan? quotes text = some found := by
  have hcut : cs.takeWhile isBlank ++ trimFront cs = cs := List.takeWhile_append_dropWhile
  have hgap : ∀ c ∈ cs.takeWhile isBlank, isBlank c = true := fun c hc =>
    List.mem_takeWhile_imp hc
  cases hfound : scan? quotes (trimFront cs) with
  | none =>
    rw [scan?_eq_none_iff.1 hfound, List.append_nil] at hcut
    exact Or.inl (hcut ▸ hgap)
  | some found =>
    exact Or.inr ⟨_, _, found, hcut.symm, hgap,
      fun c hc => eq_false_of_mem_head?_dropWhile hc, hfound⟩

/-- What a pull takes is a gap and a lexeme that is not cut short, or it is at the end of the text.
-/
theorem exists_item_of_pull {cs : List Char} {offset : Nat} {exhausted : Bool} {token : Token}
    {left : TokenStream}
    (h : (TokenStream.mk quotes cs offset exhausted).pull = (.ok token, left)) :
    (∀ c ∈ cs, isBlank c = true) ∨
      ∃ (item : Item quotes) (rest : List Char),
        cs = item.gap.val ++ (item.lexeme.spelling ++ rest) ∧
          ¬ RunsOn item.lexeme.kind item.lexeme.spelling rest := by
  rcases isBlank_or_exists_scan? quotes cs with
    hblank | ⟨gap, text, ⟨piece, spelling, rest⟩, rfl, hgap, htext, hfound⟩
  · exact Or.inl hblank
  · rw [pull_of_scan? hgap htext hfound] at h
    cases piece with
    | lexeme kind text =>
      obtain ⟨hlexeme, hstop⟩ := isLexeme_of_scan? hfound
      refine Or.inr ⟨⟨⟨gap, hgap⟩, ⟨spelling, kind, text, hlexeme⟩⟩, rest, ?_, hstop⟩
      rw [← spelling_append_rest hfound]
    | stray c => cases (Prod.mk.inj h).1
    | unclosed quote => cases (Prod.mk.inj h).1

theorem cut_of_pull_eq_error {cs : List Char} {offset : Nat} {e : LexicalError}
    {left : TokenStream}
    (h : (TokenStream.mk quotes cs offset false).pull = (.error e, left)) :
    cut quotes cs offset = .error e := by
  rw [cut, TokenStream.drain]
  split
  · rename_i e' left' herror
    rw [Except.error.inj (Prod.mk.inj (h.symm.trans herror)).1]
  · rename_i token left' hok
    cases h.symm.trans hok

theorem cut_of_pull_eq_ok {cs : List Char} {offset : Nat} {token : Token} {left : TokenStream}
    (h : (TokenStream.mk quotes cs offset false).pull = (.ok token, left)) :
    cut quotes cs offset =
      if token.isEof then .ok [token] else left.drain.1.map (token :: ·) := by
  rw [cut, TokenStream.drain]
  split
  · rename_i e left' herror
    cases h.symm.trans herror
  · rename_i token' left' hok
    obtain ⟨htoken, rfl⟩ := Prod.mk.inj (h.symm.trans hok)
    obtain rfl := Except.ok.inj htoken
    split
    · rfl
    · split <;> rename_i hdrain <;> rw [hdrain] <;> rfl

/-- A text that begins with a stray character is not cut. -/
theorem cut_stray {gap rest : List Char} {c : Char} {offset : Nat}
    (hgap : ∀ d ∈ gap, isBlank d = true) (hblank : isBlank c = false)
    (hc : scan? quotes (c :: rest) = some ⟨.stray c, [c], rest⟩) :
    cut quotes (gap ++ c :: rest) offset =
      .error (.unexpectedCharacter c (offset + byteLength gap)) := by
  have hhead : ∀ d ∈ (c :: rest).head?, isBlank d = false := by
    intro d hd
    rw [← Option.some.inj hd]
    exact hblank
  exact cut_of_pull_eq_error (pull_of_scan? hgap hhead hc)

theorem cut_of_isBlank {cs : List Char} {offset : Nat} (h : ∀ c ∈ cs, isBlank c = true) :
    cut quotes cs offset = .ok [.eof (offset + byteLength cs)] := by
  rw [cut_of_pull_eq_ok (pull_of_isBlank h)]
  rfl

/-- The first lexeme adds its token to those of the text after it, or leaves the error there. -/
theorem cut_item {item : Item quotes} {rest : List Char} {offset : Nat}
    (h : ¬ RunsOn item.lexeme.kind item.lexeme.spelling rest) :
    cut quotes (item.gap.val ++ (item.lexeme.spelling ++ rest)) offset =
      (cut quotes rest
        (offset + byteLength item.gap.val + byteLength item.lexeme.spelling)).map
        (place offset [item] ++ ·) := by
  have hkind := kind_ne_eof_of_isLexeme item.lexeme.isLexeme
  rw [cut_of_pull_eq_ok (pull_item h), if_neg (by simpa [Token.isEof] using hkind)]
  rfl

/-- Lexemes in front of a text add their tokens to those of the text, or leave the error there. -/
theorem cut_items {items : List (Item quotes)} {rest : List Char} {offset : Nat}
    (h : Apart items rest) :
    cut quotes (itemsText items ++ rest) offset =
      (cut quotes rest (offset + byteLength (itemsText items))).map (place offset items ++ ·) := by
  induction items generalizing offset with
  | nil =>
    rw [itemsText_nil, List.nil_append, byteLength_nil, Nat.add_zero]
    cases cut quotes rest offset <;> rfl
  | cons item items ih =>
    rw [itemsText_cons, List.append_assoc, List.append_assoc, cut_item h.1, ih h.2]
    simp only [byteLength_append, ← Nat.add_assoc]
    cases cut quotes rest _ <;> rfl

/-- Lexemes and gaps go on from the front of a text up to where only blanks are left, or no more
token can be pulled. -/
theorem exists_items_before_end (quotes : QuoteStyle) (cs : List Char) (offset : Nat) :
    ∃ (items : List (Item quotes)) (rest : List Char),
      cs = itemsText items ++ rest ∧ Apart items rest ∧
        ((∀ c ∈ rest, isBlank c = true) ∨
          ∃ e left,
            (TokenStream.mk quotes rest (offset + byteLength (itemsText items)) false).pull =
              (.error e, left)) := by
  induction hn : cs.length using Nat.strong_induction_on generalizing cs offset with
  | _ n ih =>
    rcases hpull : (TokenStream.mk quotes cs offset false).pull with ⟨answer, left⟩
    cases answer with
    | error e => exact ⟨[], cs, rfl, trivial, Or.inr ⟨e, left, hpull⟩⟩
    | ok token =>
      rcases exists_item_of_pull hpull with hblank | ⟨item, rest, rfl, hstop⟩
      · exact ⟨[], cs, rfl, trivial, Or.inl hblank⟩
      · have hshorter : rest.length < n := by
          obtain ⟨c, cs, hcs, -⟩ := heads_of_isLexeme item.lexeme.isLexeme
          rw [← hn, hcs]
          simp only [List.length_append, List.length_cons]
          omega
        obtain ⟨items, last, rfl, hapart, hlast⟩ := ih rest.length hshorter rest
          (offset + byteLength item.gap.val + byteLength item.lexeme.spelling) rfl
        refine ⟨item :: items, last, by simp, ⟨hstop, hapart⟩, ?_⟩
        rwa [itemsText_cons, byteLength_append, byteLength_append, ← Nat.add_assoc, ← Nat.add_assoc]

/-- A text that is cut into tokens is laid out as lexemes and gaps. -/
theorem exists_items_of_cut {cs : List Char} {offset : Nat} {ts : List Token}
    (h : cut quotes cs offset = .ok ts) :
    ∃ (items : List (Item quotes)) (trailing : Gap),
      cs = itemsText items ++ trailing.val ∧ Apart items trailing.val ∧
        ts = place offset items ++ [.eof (offset + byteLength cs)] := by
  obtain ⟨items, rest, rfl, hapart, hblank | ⟨e, left, hpull⟩⟩ :=
    exists_items_before_end quotes cs offset
  · rw [cut_items hapart, cut_of_isBlank hblank] at h
    refine ⟨items, ⟨rest, hblank⟩, rfl, hapart, ?_⟩
    rw [← Except.ok.inj h, byteLength_append, Nat.add_assoc]
  · rw [cut_items hapart, cut_of_pull_eq_error hpull] at h
    cases h

/-- A text that is not cut is laid out as lexemes and gaps up to where the error is pulled. -/
theorem exists_pull_of_cut_eq_error {cs : List Char} {offset : Nat} {e : LexicalError}
    (h : cut quotes cs offset = .error e) :
    ∃ (items : List (Item quotes)) (rest : List Char) (left : TokenStream),
      cs = itemsText items ++ rest ∧ Apart items rest ∧
        (TokenStream.mk quotes rest (offset + byteLength (itemsText items)) false).pull =
          (.error e, left) := by
  obtain ⟨items, rest, rfl, hapart, hblank | ⟨e', left, hpull⟩⟩ :=
    exists_items_before_end quotes cs offset
  · rw [cut_items hapart, cut_of_isBlank hblank] at h
    cases h
  · rw [cut_items hapart, cut_of_pull_eq_error hpull] at h
    obtain rfl := Except.error.inj h
    exact ⟨items, rest, left, rfl, hapart, hpull⟩

/-- A text is cut into tokens exactly if it can be laid out as lexemes and gaps, and then into the
tokens of the lexemes with one end marker after them. -/
theorem tokenize_eq_ok_iff_layout (dialect : Dialect) (source : String) (ts : List Token) :
    tokenize dialect source = .ok ts ↔
      ∃ layout : Layout dialect.quotes, layout.text = source.toList ∧
        ts = place 0 layout.items ++ [.eof source.utf8ByteSize] := by
  change cut dialect.quotes source.toList 0 = .ok ts ↔ _
  rw [← byteLength_toList]
  constructor
  · intro h
    obtain ⟨items, trailing, htext, hapart, rfl⟩ := exists_items_of_cut h
    have hchain := (apart_iff_isChain fun c hc => trailing.property c (List.mem_of_mem_head? hc)).1
      hapart
    exact ⟨⟨items, trailing, hchain⟩, htext.symm, by rw [Nat.zero_add]⟩
  · rintro ⟨layout, htext, rfl⟩
    have hapart : Apart layout.items layout.trailing.val :=
      (apart_iff_isChain fun c hc => layout.trailing.property c (List.mem_of_mem_head? hc)).2
        layout.apart
    rw [← htext, Layout.text, cut_items hapart, cut_of_isBlank layout.trailing.property]
    simp [Except.map]

end SelectLang

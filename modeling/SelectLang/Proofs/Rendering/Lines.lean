import SelectLang.Proofs.Rendering.Reparse
import SelectLang.Proofs.Text.Entries

/-!
# Rendered queries as entries of a batch

The only blank that a rendered query shows outside its strings is the space, and it has none at its
ends.  So a rendered query can stand in a batch as one entry exactly if none of its strings holds a
newline (`isEntry_render_iff`).
-/

namespace SelectLang

open Phrase (tokens)
open Text

variable {quotes : QuoteStyle}

/-! ## Blanks in lexemes -/

theorem isBlank_eq_false_of_mem_word {word : List Char} (h : IsWord word) :
    ∀ c ∈ word, isBlank c = false := by
  obtain ⟨first, rest, rfl, hfirst, hrest⟩ := isWord_iff.1 h
  intro c hc
  apply isBlank_eq_false_of_continuesWord
  rcases List.mem_cons.1 hc with rfl | hc
  · exact continuesWord_of_beginsWord hfirst
  · exact hrest c hc

theorem isBlank_eq_false_of_mem_digits {digits : List Char} (h : IsDigits digits) :
    ∀ c ∈ digits, isBlank c = false := by
  intro c hc
  exact isBlank_eq_false_of_continuesWord (continuesWord_of_isDigit (h.2 c hc))

theorem isBlank_eq_false_of_mem_number {number : List Char} (h : IsNumber number) :
    ∀ c ∈ number, isBlank c = false := by
  obtain ⟨whole, hwhole, rfl | ⟨fraction, hfraction, rfl⟩⟩ := h
  · exact isBlank_eq_false_of_mem_digits hwhole
  · intro c hc
    rcases List.mem_append.1 hc with hc | hc
    · exact isBlank_eq_false_of_mem_digits hwhole c hc
    · rcases List.mem_cons.1 hc with rfl | hc
      · decide
      · exact isBlank_eq_false_of_mem_digits hfraction c hc

theorem isBlank_eq_false_of_mem_symbol {spelling : String} {kind : Kind}
    (h : IsSymbol spelling kind) : ∀ c ∈ spelling.toList, isBlank c = false := by
  have hall : spelling.toList.all (!isBlank ·) = true := by cases h <;> decide
  intro c hc
  simpa using List.all_eq_true.1 hall c hc

/-- There are blanks in no lexeme but a string. -/
theorem isBlank_eq_false_of_mem_lexeme {spelling : List Char} {kind : Kind} {text : String}
    (h : IsLexeme quotes spelling kind text) (hkind : kind ≠ .string) :
    ∀ c ∈ spelling, isBlank c = false := by
  cases h with
  | keyword k hword _ => exact isBlank_eq_false_of_mem_word hword
  | name hword _ => exact isBlank_eq_false_of_mem_word hword
  | number hdigits => exact isBlank_eq_false_of_mem_number hdigits
  | string _ _ => exact absurd rfl hkind
  | symbol hsymbol => exact isBlank_eq_false_of_mem_symbol hsymbol

theorem isBlank_getLast?_lexeme {spelling : List Char} {kind : Kind} {text : String}
    (h : IsLexeme quotes spelling kind text) :
    ∃ c ∈ spelling.getLast?, isBlank c = false := by
  by_cases hkind : kind = .string
  · subst hkind
    cases h with
    | @string quote content hquote _ =>
      refine ⟨quote, ?_, isBlank_eq_false_of_accepts hquote⟩
      rw [← List.cons_append]
      exact List.getLast?_concat
    | symbol hsymbol => cases hsymbol
  · obtain ⟨c, cs, hcs, -⟩ := heads_of_isLexeme h
    have hne : spelling ≠ [] := by simp [hcs]
    refine ⟨spelling.getLast hne, List.getLast?_eq_some_getLast hne, ?_⟩
    exact isBlank_eq_false_of_mem_lexeme h hkind _ (List.getLast_mem hne)

/-! ## Rendered texts -/

theorem newline_mem_spelled_iff {token : Token} (h : token.Writable quotes) :
    '\n' ∈ token.lead ++ token.spelled ↔
      token.kind = .string ∧ '\n' ∈ token.text.toList := by
  -- what stands before a token is a space at most
  have hlead : '\n' ∉ token.lead := by
    unfold Token.lead
    split <;> decide
  rw [List.mem_append, or_iff_right hlead]
  by_cases hkind : token.kind = .string
  · have hquote : '\n' ≠ Operand.quoteFor token.text := by
      rcases quoteFor_eq token.text with hc | hc <;> rw [hc] <;> decide
    rw [Token.spelled, if_pos hkind, toList_render_string]
    simp [hquote, hkind]
  · have hspelled : '\n' ∉ token.spelled := by
      intro hmem
      cases isBlank_newline.symm.trans (isBlank_eq_false_of_mem_lexeme h hkind '\n' hmem)
    simp [hspelled, hkind]

/-- Tokens in plain form show a newline exactly if one of the strings holds it. -/
theorem newline_mem_written_iff {ts : List Token} (h : ∀ token ∈ ts, token.Writable quotes) :
    '\n' ∈ written ts ↔ ∃ content ∈ contents ts, '\n' ∈ content.toList := by
  rw [written, List.mem_flatMap]
  constructor
  · rintro ⟨token, htoken, hmem⟩
    obtain ⟨hkind, htext⟩ := (newline_mem_spelled_iff (h token htoken)).1 hmem
    exact ⟨token.text, mem_contents_iff.2 ⟨token, htoken, hkind, rfl⟩, htext⟩
  · rintro ⟨content, hcontent, htext⟩
    obtain ⟨token, htoken, hkind, rfl⟩ := mem_contents_iff.1 hcontent
    exact ⟨token, htoken, (newline_mem_spelled_iff (h token htoken)).2 ⟨hkind, htext⟩⟩

/-- Tokens in plain form end with the last character of a lexeme. -/
theorem isBlank_getLast?_written {ts : List Token} (h : ∀ token ∈ ts, token.Writable quotes) :
    ∀ c ∈ (written ts).getLast?, isBlank c = false := by
  rcases List.eq_nil_or_concat ts with rfl | ⟨us, token, rfl⟩
  · simp
  · obtain ⟨c, hc, hblank⟩ := isBlank_getLast?_lexeme (h token (by simp))
    intro d hd
    rw [List.concat_eq_append, written_append, written_cons, written_nil, List.append_nil,
      ← List.append_assoc, List.getLast?_append, Option.mem_def.1 hc, Option.some_or] at hd
    obtain rfl := Option.some.inj hd
    exact hblank

/-! ## Rendered queries -/

section

variable {required : Bool} {derivation : Derivation required}

theorem writable_both_of_mem_spell (h : derivation.OfLexemes quotes) :
    ∀ token ∈ tokens derivation.spell, token.Writable .both := by
  intro token htoken
  refine writable_of_mem_spell h htoken ?_
  rintro ⟨-, hrefused⟩
  rcases quoteFor_eq token.text with hc | hc <;> rw [hc] at hrefused <;> cases hrefused

theorem bare_render (h : derivation.OfLexemes quotes) : Bare derivation.query.render.toList := by
  obtain ⟨cs, hcs⟩ : ∃ cs, derivation.query.render.toList = 'S' :: cs := by
    simp [Query.render]
  have hlast := isBlank_getLast?_written (writable_both_of_mem_spell h)
  rw [derivation.written_spell] at hlast
  rw [hcs] at hlast ⊢
  constructor
  · intro c hc
    obtain rfl := Option.some.inj hc
    decide
  · rwa [List.getLast?_cons_cons] at hlast

end

/-- A parsed query is rendered to one entry of a batch exactly if no string in it holds a newline.
-/
theorem isEntry_render_iff {dialect : Dialect} {source : String} {q : Query}
    (h : Query.parse dialect source = .ok q) :
    IsEntry q.render.toList ↔ ∀ content ∈ q.strings, '\n' ∉ content.toList := by
  obtain ⟨derivation, hlexemes, rfl⟩ := exists_derivation_of_parse h
  have hmem : '\n' ∈ derivation.query.render.toList ↔
      ∃ content ∈ derivation.query.strings, '\n' ∈ content.toList := by
    have hwritten := newline_mem_written_iff (writable_both_of_mem_spell hlexemes)
    rwa [derivation.written_spell, contents_tokens_spell, List.mem_cons,
      or_iff_right (by decide)] at hwritten
  constructor
  · rintro ⟨-, hnewline, -⟩ content hcontent hin
    exact hnewline (hmem.2 ⟨content, hcontent, hin⟩)
  · intro hnone
    refine ⟨?_, ?_, bare_render hlexemes⟩
    · simp [Query.render]
    · rw [hmem]
      rintro ⟨content, hcontent, hin⟩
      exact hnone content hcontent hin

end SelectLang

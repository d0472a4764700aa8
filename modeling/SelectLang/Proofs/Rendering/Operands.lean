import SelectLang.Proofs.Query.Spellable
import SelectLang.Proofs.Rendering.Relex

/-!
# Operands as tokens

An operand built by hand may hold any text.  What is written of it is one lexeme that stands for it
exactly if it is a name, a number, or a string in a quote that is accepted and that it does not hold
(`isLexeme_render_iff`).  It is cut into that one token then, and in no other case
(`tokenize_render_operand_iff`).
-/

namespace SelectLang

open Text

variable {quotes : QuoteStyle}

/-! ## Texts of one token -/

/-- A text that is cut into one token and the end marker holds a lexeme of that token. -/
theorem exists_lexeme_of_tokenize {dialect : Dialect} {source : String} {token last : Token}
    (h : tokenize dialect source = .ok [token, last]) :
    ∃ before spelling after, source.toList = before ++ (spelling ++ after) ∧
      IsLexeme dialect.quotes spelling token.kind token.text := by
  obtain ⟨items, trailing, hsource, -, htokens⟩ := exists_items_of_cut h
  have hplace : [token] = place 0 items :=
    (List.append_inj' (show [token] ++ [last] = _ from htokens) rfl).1
  rcases items with _ | ⟨item, _ | ⟨next, items⟩⟩
  · cases hplace
  · obtain rfl := List.singleton_inj.1 hplace
    refine ⟨item.gap.val, item.lexeme.spelling, trailing.val, ?_, item.lexeme.isLexeme⟩
    simp [hsource]
  · cases hplace

/-- A lexeme by itself is cut into its token. -/
theorem tokenize_lexeme {dialect : Dialect} {source text : String} {kind : Kind}
    (h : IsLexeme dialect.quotes source.toList kind text) :
    tokenize dialect source =
      .ok [⟨kind, text, ⟨0, source.utf8ByteSize⟩⟩, .eof source.utf8ByteSize] := by
  let item : Item dialect.quotes := ⟨⟨[], by simp⟩, ⟨source.toList, kind, text, h⟩⟩
  have hstop : ¬ RunsOn item.lexeme.kind item.lexeme.spelling [] := not_runsOn_of_isBlank (by simp)
  have hend : ∀ offset, cut dialect.quotes [] offset = .ok [.eof offset] :=
    fun offset => cut_of_isBlank (by simp)
  have hcut := @cut_item _ item [] 0 hstop
  rw [hend] at hcut
  change cut dialect.quotes source.toList 0 = _
  simpa [item, place, Except.map, byteLength_toList] using hcut

/-! ## Operands -/

namespace Operand

/-- The kind of the token that stands for the operand. -/
def kind : Operand → Kind
  | .column _ => .identifier
  | .number _ => .number
  | .string _ => .string

/-- The operand is a name, or a number, or a string that lacks one of the quotes and is written with
one that is accepted. -/
def IsPlain (quotes : QuoteStyle) : Operand → Prop
  | .column name => IsName name.toList
  | .number text => IsNumber text.toList
  | .string content => quotes.accepts (quoteFor content) = true ∧
      ¬ ('\'' ∈ content.toList ∧ '"' ∈ content.toList)

instance : DecidablePred (IsPlain quotes)
  | .column _ => inferInstanceAs (Decidable (IsName _))
  | .number _ => inferInstanceAs (Decidable (IsNumber _))
  | .string _ => inferInstanceAs (Decidable (_ ∧ _))

/-- Lexemes of the same kind and text are equally long, whichever quote a string is put into. -/
theorem length_of_isLexeme {operand : Operand} {spelling : List Char}
    (h : IsLexeme quotes spelling operand.kind operand.text) :
    spelling.length = operand.render.toList.length := by
  cases operand with
  | column name => rw [(isLexeme_identifier_iff.1 h).1]; rfl
  | number text => rw [(isLexeme_number_iff.1 h).1]; rfl
  | string content =>
    obtain ⟨quote, -, -, rfl⟩ := isLexeme_string_iff.1 h
    simp [toList_render_string, text]

/-- What is written of the operand is a lexeme that stands for it exactly if the operand is plain.
-/
theorem isLexeme_render_iff (operand : Operand) :
    IsLexeme quotes operand.render.toList operand.kind operand.text ↔ operand.IsPlain quotes := by
  cases operand with
  | column name => simp [kind, text, render, IsPlain, isLexeme_identifier_iff]
  | number text => simp [kind, Operand.text, render, IsPlain, isLexeme_number_iff]
  | string content =>
    rw [kind, text, isLexeme_string_iff, IsPlain, ← quoteFor_mem_iff, toList_render_string]
    constructor
    · rintro ⟨quote, hquote, hcontent, hspelling⟩
      obtain rfl : quoteFor content = quote := (List.cons.inj hspelling).1
      exact ⟨hquote, hcontent⟩
    · rintro ⟨hquote, hcontent⟩
      exact ⟨_, hquote, hcontent, rfl⟩

/-- Neither a number with a point at its end nor a keyword is read again as what it was. -/
example : ¬ (Operand.number "1.").IsPlain .both ∧ ¬ (Operand.column "bY").IsPlain .both := by
  decide +kernel

end Operand

/-- What is written of an operand is cut into a token of its kind and text, and nothing else before
the end marker, exactly if the operand is plain.  The quote chosen for a string is one that it holds
only if it holds both. -/
theorem tokenize_render_operand_iff (dialect : Dialect) (operand : Operand) :
    ((∃ token last, tokenize dialect operand.render = .ok [token, last] ∧
        token.kind = operand.kind ∧ token.text = operand.text ∧ last.kind = .eof) ↔
      operand.IsPlain dialect.quotes) ∧
    ∀ content : String, Operand.quoteFor content ∈ content.toList ↔
      '\'' ∈ content.toList ∧ '"' ∈ content.toList := by
  refine ⟨⟨?_, fun hplain => ?_⟩, Operand.quoteFor_mem_iff⟩
  · rintro ⟨token, last, htokens, hkind, htext, -⟩
    obtain ⟨before, spelling, after, hsource, hlexeme⟩ := exists_lexeme_of_tokenize htokens
    rw [hkind, htext] at hlexeme
    -- the lexeme is as long as all that is written, so nothing stands around it
    have hlength := Operand.length_of_isLexeme hlexeme
    rw [hsource, List.length_append, List.length_append] at hlength
    obtain rfl : before = [] := List.eq_nil_of_length_eq_zero (by omega)
    obtain rfl : after = [] := List.eq_nil_of_length_eq_zero (by omega)
    rw [List.nil_append, List.append_nil] at hsource
    rw [← hsource] at hlexeme
    exact operand.isLexeme_render_iff.1 hlexeme
  · have htokens := tokenize_lexeme (operand.isLexeme_render_iff.2 hplain)
    exact ⟨_, _, htokens, rfl, rfl, rfl⟩

end SelectLang

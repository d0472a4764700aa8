import SelectLang.Proofs.Rendering.Relex
import SelectLang.Proofs.Rendering.Strings
import SelectLang.Proofs.Statement.Outcome
import SelectLang.Statement.Parse

/-!
# Parsing a rendered query

A query that was parsed from some text is rendered to a text that parses to the same query, under
any dialect that accepts the quotes of its strings and does without the semicolon if there is none
(`parse_render_iff`).
-/

namespace SelectLang

open Phrase (tokens)
open StatementReader (takeWhile_append_ending)
open Text

/-! ## What a parsed query is made of -/

/-- Some lexeme has a token of this kind and text. -/
def Token.IsLexical (quotes : QuoteStyle) (token : Token) : Prop :=
  ∃ spelling, IsLexeme quotes spelling token.kind token.text

/-- A derivation of lexemes, under the rules of some quotes. -/
def Derivation.OfLexemes {required : Bool} (quotes : QuoteStyle)
    (derivation : Derivation required) : Prop :=
  ∀ token ∈ tokens derivation, ∃ spelling, IsLexeme quotes spelling token.kind token.text

/-- A parsed query is that of a derivation whose tokens are all those that were cut from the text.
-/
theorem exists_tokenize_of_parse {dialect : Dialect} {source : String} {q : Query}
    (h : Query.parse dialect source = .ok q) :
    ∃ (derivation : Derivation dialect.terminatorRequired) (stop : Nat),
      tokenize dialect source = .ok (tokens derivation ++ [.eof stop]) ∧
        derivation.OfLexemes dialect.quotes ∧ derivation.query = q := by
  rw [Query.parse] at h
  cases htokens : tokenize dialect source with
  | error e =>
    rw [htokens] at h
    cases h
  | ok ts =>
    rw [htokens] at h
    dsimp only at h
    cases hquery : Query.ofTokens dialect ts with
    | error e =>
      rw [hquery] at h
      cases h
    | ok q' =>
      rw [hquery] at h
      obtain rfl := Except.ok.inj h
      obtain ⟨derivation, hderivation, hq⟩ := ofTokens_eq_ok_iff.1 hquery
      obtain ⟨items, trailing, -, -, rfl⟩ := exists_items_of_cut htokens
      have hend := fun token (htoken : token ∈ place 0 items) => kind_ne_eof_of_mem_place htoken
      rw [takeWhile_append_ending hend rfl] at hderivation
      refine ⟨derivation, 0 + byteLength source.toList, by rw [hderivation], ?_, hq⟩
      intro token htoken
      rw [hderivation] at htoken
      exact exists_isLexeme_of_mem_place htoken

theorem exists_derivation_of_parse {dialect : Dialect} {source : String} {q : Query}
    (h : Query.parse dialect source = .ok q) :
    ∃ derivation : Derivation dialect.terminatorRequired,
      derivation.OfLexemes dialect.quotes ∧ derivation.query = q := by
  obtain ⟨derivation, -, -, hderivation⟩ := exists_tokenize_of_parse h
  exact ⟨derivation, hderivation⟩

/-! ## Parsing it again -/

section

variable {required : Bool} {quotes : QuoteStyle} {derivation : Derivation required}

/-- The tokens of the derivation can be written, but for strings whose quotes are not accepted. -/
theorem writable_of_mem_spell {quotes' : QuoteStyle} (h : derivation.OfLexemes quotes)
    {token : Token} (htoken : token ∈ tokens derivation.spell)
    (hquotes : ¬ token.Misquoted quotes') : token.Writable quotes' := by
  have hall : Every (fun token => ¬ token.Misquoted quotes' → token.Writable quotes')
      derivation := by
    intro token htoken hquotes
    obtain ⟨spelling, hlexeme⟩ := h token htoken
    refine writable_of_isLexeme hlexeme fun hkind => ?_
    rw [← Bool.not_eq_false]
    exact fun hrefused => hquotes ⟨hkind, hrefused⟩
  exact hall.spell (fun _ => writable_of_keyword rfl) token htoken hquotes

theorem exists_misquoted_iff {quotes' : QuoteStyle} :
    (∃ token ∈ tokens derivation.spell, token.Misquoted quotes') ↔
      ∃ content ∈ derivation.query.strings,
        quotes'.accepts (Operand.quoteFor content) = false := by
  rw [← contents_tokens_spell derivation]
  constructor
  · rintro ⟨token, htoken, hkind, hrefused⟩
    exact ⟨token.text, mem_contents_iff.2 ⟨token, htoken, hkind, rfl⟩, hrefused⟩
  · rintro ⟨content, hcontent, hrefused⟩
    obtain ⟨token, htoken, hkind, rfl⟩ := mem_contents_iff.1 hcontent
    exact ⟨token, htoken, hkind, hrefused⟩

/-- The same derivation for a reader that may require a terminator. -/
def Derivation.requiring (derivation : Derivation required) {required' : Bool}
    (h : required' = true → derivation.query.terminated = true) : Derivation required' :=
  { derivation with terminator := ⟨derivation.terminator.val, h⟩ }

/-- Tokens similar to those of a derivation are read to the same query. -/
theorem ofTokens_eq_ok_of_similar {dialect : Dialect} {ts : List Token} {stop : Nat}
    (hsimilar : List.Forall₂ (Token.Similar Eq) (tokens derivation) ts)
    (heof : ∀ token ∈ ts, token.kind ≠ .eof)
    (hterminated : dialect.terminatorRequired = true → derivation.query.terminated = true) :
    Query.ofTokens dialect (ts ++ [.eof stop]) = .ok derivation.query := by
  have hrun : (Production.statement dialect.terminatorRequired).run (tokens derivation ++ []) =
      (.ok derivation.query, []) := by
    refine run_statement_eq_ok_iff.2 ⟨rfl, derivation.requiring hterminated, ?_, rfl⟩
    rw [List.append_nil]
    rfl
  obtain ⟨r, hrun', hagree⟩ := inStep_statement _ hrun hsimilar (show SameNext [] [] from rfl)
  cases hagree with
  | ok hq =>
    rw [← hq.eq] at hrun'
    obtain ⟨-, derivation', hderivation', hquery'⟩ := run_statement_eq_ok_iff.1 hrun'
    refine ofTokens_eq_ok_iff.2 ⟨derivation', ?_, hquery'⟩
    rw [hderivation', takeWhile_append_ending heof rfl, List.append_nil]

/-- Where the quotes are accepted, and the semicolon is there if it is required, the rendered query
is parsed to the query. -/
theorem parse_render_of_accepts {dialect : Dialect} (h : derivation.OfLexemes quotes)
    (hquotes : ∀ content ∈ derivation.query.strings,
      dialect.quotes.accepts (Operand.quoteFor content) = true)
    (hterminated : dialect.terminatorRequired = true → derivation.query.terminated = true) :
    Query.parse dialect derivation.query.render = .ok derivation.query := by
  have hwritable : ∀ token ∈ tokens derivation.spell, token.Writable dialect.quotes := by
    intro token htoken
    refine writable_of_mem_spell h htoken fun hmisquoted => ?_
    obtain ⟨content, hcontent, hrefused⟩ := exists_misquoted_iff.1 ⟨token, htoken, hmisquoted⟩
    rw [hquotes content hcontent] at hrefused
    cases hrefused
  obtain ⟨ts, stop, hcut, hlabels, heof⟩ := cut_written derivation.written_spell.symm hwritable
  have htokens : tokenize dialect derivation.query.render = .ok (ts ++ [.eof stop]) := hcut
  have hquery : Query.ofTokens dialect (ts ++ [.eof stop]) = .ok derivation.spell.query :=
    ofTokens_eq_ok_of_similar (similar_of_labels_eq hlabels) heof
      (by rwa [derivation.query_spell])
  rw [Query.parse, htokens]
  dsimp only
  rw [hquery, derivation.query_spell]
  rfl

/-- Where the quotes of some string are not accepted, the rendered query cannot even be cut into
tokens. -/
theorem exists_parse_render_eq_error {dialect : Dialect} (h : derivation.OfLexemes quotes)
    (hquotes : ∃ content ∈ derivation.query.strings,
      dialect.quotes.accepts (Operand.quoteFor content) = false) :
    ∃ e, Query.parse dialect derivation.query.render = .error (.lexical e) := by
  obtain ⟨e, he⟩ := cut_written_eq_error derivation.written_spell.symm
    (fun token htoken => writable_of_mem_spell h htoken) (exists_misquoted_iff.2 hquotes)
  have htokens : tokenize dialect derivation.query.render = .error e := he
  exact ⟨e, by rw [Query.parse, htokens]⟩

theorem parse_render_eq_ok_iff {dialect : Dialect} (h : derivation.OfLexemes quotes) :
    Query.parse dialect derivation.query.render = .ok derivation.query ↔
      (∀ content ∈ derivation.query.strings,
        dialect.quotes.accepts (Operand.quoteFor content) = true) ∧
      (dialect.terminatorRequired = true → derivation.query.terminated = true) := by
  constructor
  · intro hparse
    constructor
    · intro content hcontent
      by_contra hrefused
      obtain ⟨e, he⟩ := exists_parse_render_eq_error h
        ⟨content, hcontent, Bool.eq_false_iff.2 hrefused⟩
      cases he.symm.trans hparse
    · intro hrequired
      obtain ⟨derivation', -, hquery⟩ := exists_derivation_of_parse hparse
      rw [← hquery]
      exact derivation'.terminator.property hrequired
  · rintro ⟨hquotes, hterminated⟩
    exact parse_render_of_accepts h hquotes hterminated

/-- A string that has been parsed lacks one of the quotes that were accepted. -/
theorem exists_quote_of_mem_strings (h : derivation.OfLexemes quotes) {content : String}
    (hcontent : content ∈ derivation.query.strings) :
    ∃ quote, quotes.accepts quote = true ∧ quote ∉ content.toList := by
  have hall : Every (fun token => token.kind = .string →
      ∃ quote, quotes.accepts quote = true ∧ quote ∉ token.text.toList) derivation := by
    intro token htoken hkind
    obtain ⟨spelling, hlexeme⟩ := h token htoken
    rw [hkind] at hlexeme
    generalize token.text = text at hlexeme ⊢
    cases hlexeme with
    | @string quote content hquote hnot => exact ⟨quote, hquote, by simpa using hnot⟩
    | symbol hsymbol => cases hsymbol
  rw [← contents_tokens_spell, mem_contents_iff] at hcontent
  obtain ⟨token, htoken, hkind, rfl⟩ := hcontent
  exact hall.spell (fun hascending => absurd hascending (by decide)) token htoken hkind

end

/-- Which quotes suit a parsed string under the rules that it was parsed under. -/
theorem accepts_quoteFor_iff {quotes : QuoteStyle} {content : String} {quote : Char}
    (hquote : quotes.accepts quote = true) (h : quote ∉ content.toList) :
    quotes.accepts (Operand.quoteFor content) = true ↔
      quotes ≠ .double ∨ '\'' ∈ content.toList := by
  cases quotes with
  | single =>
    obtain rfl : quote = '\'' := by simpa [QuoteStyle.accepts] using hquote
    simp [Operand.quoteFor, h, QuoteStyle.accepts]
  | double =>
    obtain rfl : quote = '"' := by simpa [QuoteStyle.accepts] using hquote
    by_cases hsingle : '\'' ∈ content.toList
    · simp [Operand.quoteFor, h, hsingle, QuoteStyle.accepts]
    · simp [Operand.quoteFor, hsingle, QuoteStyle.accepts]
  | both =>
    rcases quoteFor_eq content with hc | hc <;> simp [hc, QuoteStyle.accepts]

/-- Rendering and parsing again: it gives back a parsed query under just those dialects that accept
the quotes of its strings and do not miss a semicolon.  Under the dialect that the query was parsed
under it does so, except that double quotes alone are too few for a string without a single quote.
-/
theorem parse_render_iff {dialect : Dialect} {source : String} {q : Query}
    (h : Query.parse dialect source = .ok q) :
    (∀ dialect' : Dialect, Query.parse dialect' q.render = .ok q ↔
      (∀ content ∈ q.strings, dialect'.quotes.accepts (Operand.quoteFor content) = true) ∧
      (dialect'.terminatorRequired = true → q.terminated = true)) ∧
    (dialect.quotes ≠ .double → Query.parse dialect q.render = .ok q) ∧
    (dialect.quotes = .double →
      ((∃ e, Query.parse dialect q.render = .error e) ↔
        ∃ content ∈ q.strings, '\'' ∉ content.toList)) := by
  obtain ⟨derivation, hlexemes, rfl⟩ := exists_derivation_of_parse h
  have hterminated : dialect.terminatorRequired = true → derivation.query.terminated = true :=
    derivation.terminator.property
  have haccepts : ∀ content ∈ derivation.query.strings,
      (dialect.quotes.accepts (Operand.quoteFor content) = true ↔
        dialect.quotes ≠ .double ∨ '\'' ∈ content.toList) := by
    intro content hcontent
    obtain ⟨quote, hquote, hnot⟩ := exists_quote_of_mem_strings hlexemes hcontent
    exact accepts_quoteFor_iff hquote hnot
  refine ⟨fun dialect' => parse_render_eq_ok_iff hlexemes, ?_, ?_⟩
  · intro hdouble
    refine parse_render_of_accepts hlexemes (fun content hcontent => ?_) hterminated
    exact (haccepts content hcontent).2 (Or.inl hdouble)
  · intro hdouble
    constructor
    · rintro ⟨e, he⟩
      by_contra hnone
      have hok : Query.parse dialect derivation.query.render = .ok derivation.query := by
        refine parse_render_of_accepts hlexemes (fun content hcontent => ?_) hterminated
        refine (haccepts content hcontent).2 (Or.inr ?_)
        by_contra hsingle
        exact hnone ⟨content, hcontent, hsingle⟩
      cases he.symm.trans hok
    · rintro ⟨content, hcontent, hsingle⟩
      have hrefused : dialect.quotes.accepts (Operand.quoteFor content) = false := by
        rw [Bool.eq_false_iff]
        intro htrue
        rcases (haccepts content hcontent).1 htrue with hne | hmem
        · exact hne hdouble
        · exact hsingle hmem
      obtain ⟨e, he⟩ := exists_parse_render_eq_error hlexemes ⟨content, hcontent, hrefused⟩
      exact ⟨_, he⟩

/-- A string without a single quote, read between double quotes, is rendered between single ones. -/
theorem parse_render_double :
    ∃ e, Query.parse { quotes := .double } (Query.render
      { columns := .all, tables := ["t"], filter := some (.leaf ⟨"b", .eq, .string "x"⟩) }) =
        .error e := by
  have h : Query.parse { quotes := .double } "select * from t where b = \"x\"" =
      .ok { columns := .all, tables := ["t"], filter := some (.leaf ⟨"b", .eq, .string "x"⟩) } := by
    decide +kernel
  exact ((parse_render_iff h).2.2 rfl).2 ⟨"x", by decide, by decide⟩

end SelectLang

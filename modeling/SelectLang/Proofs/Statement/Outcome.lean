import Mathlib.Data.List.TakeWhile
import SelectLang.Proofs.Grammar.InStep
import SelectLang.Proofs.Grammar.Recognition
import SelectLang.Statement.Reader

/-!
# What reading a statement comes to

A list of tokens is read if the tokens before its first end marker are a sentence of the grammar,
and then to the query of their only derivation (`ofTokens_eq_ok_iff_and_unique`).  Otherwise the
reader stops at the first token that no sentence has in this place, and tells what a sentence could
have there (`firstMisfit_of_ofTokens_eq_error`).
-/

namespace SelectLang

open Phrase (tokens)

/-- The token at an index; past the last one stands an end marker. -/
def tokenAt (ts : List Token) (i : Nat) : Token :=
  ts[i]?.getD (.eof ((ts.getLast?.map (·.span.stop)).getD 0))

/-- Some sentence begins with these tokens. -/
def BeginsSentence (required : Bool) (read : List Token) : Prop :=
  ∃ rest, IsSentence required (read ++ rest)

namespace StatementReader

variable {dialect : Dialect} {ts : List Token}

/-! ## Where the reader stands -/

theorem tokenAt_takeWhile (ts : List Token) :
    tokenAt ts (ts.takeWhile (!·.isEof)).length = endingOf ts := by
  have hfind : ts.find? Token.isEof = (ts.dropWhile (!·.isEof)).head? :=
    List.find?_eq_head?_dropWhile_not Token.isEof ts
  have hcut : ts.takeWhile (!·.isEof) ++ ts.dropWhile (!·.isEof) = ts :=
    List.takeWhile_append_dropWhile
  have hindex : ts[(ts.takeWhile (!·.isEof)).length]? = ts.find? Token.isEof := by
    generalize ts.takeWhile (!·.isEof) = before at hcut ⊢
    rw [hfind, ← hcut, List.getElem?_append_right (Nat.le_refl _), Nat.sub_self,
      List.head?_eq_getElem?, hcut]
  rw [tokenAt, endingOf, hindex]

theorem tokenAt_of_takeWhile {read left : List Token} {token : Token}
    (h : ts.takeWhile (!·.isEof) = read ++ token :: left) : tokenAt ts read.length = token := by
  obtain ⟨after, hafter⟩ := List.takeWhile_prefix (l := ts) (!·.isEof)
  rw [tokenAt, ← hafter, h]
  simp

/-- The tokens before the first end marker are read up to the cursor, and a failure stands at the
token there. -/
theorem exists_read (dialect : Dialect) (ts : List Token) :
    ∃ (r : Except Expected Query) (read left : List Token),
      ts.takeWhile (!·.isEof) = read ++ left ∧
      (Production.statement dialect.terminatorRequired).run (read ++ left) = (r, left) ∧
      (ofTokens dialect ts).read.2.cursor = read.length ∧
      Query.ofTokens dialect ts = r.mapError (.ofToken (tokenAt ts read.length)) := by
  let statement := Production.statement dialect.terminatorRequired
  obtain ⟨read, hread⟩ := statement.suffix_run (ts.takeWhile (!·.isEof))
  generalize hrun : statement.run (ts.takeWhile (!·.isEof)) = outcome at hread
  obtain ⟨r, left⟩ := outcome
  have hcursor : ((ofTokens dialect ts).advance statement).2.cursor = read.length := by
    simp only [advance, ofTokens, hrun]
    rw [← hread, List.length_append]
    exact (Nat.zero_add _).trans (Nat.add_sub_cancel _ _)
  refine ⟨r, read, left, hread.symm, hread ▸ hrun, hcursor, ?_⟩
  have hcurrent : ((ofTokens dialect ts).advance statement).2.current = tokenAt ts read.length := by
    simp only [advance, ofTokens, current, hrun]
    cases left with
    | nil =>
      rw [List.append_nil] at hread
      rw [hread, tokenAt_takeWhile]
      rfl
    | cons token rest => rw [tokenAt_of_takeWhile hread.symm, List.head?_cons, Option.getD_some]
  rw [← hcurrent]
  change ((ofTokens dialect ts).advance statement).1 = _
  simp only [advance, ofTokens, hrun]

theorem take_length_read {read left : List Token} (h : ts.takeWhile (!·.isEof) = read ++ left) :
    ts.take read.length = read := by
  obtain ⟨after, hafter⟩ := List.takeWhile_prefix (l := ts) (!·.isEof)
  rw [← hafter, h, List.append_assoc, List.take_left]

theorem kind_ne_eof_of_mem_takeWhile {token : Token} (h : token ∈ ts.takeWhile (!·.isEof)) :
    token.kind ≠ .eof := by
  have hp := List.mem_takeWhile_imp h
  simpa [Token.isEof] using hp

/-- An end marker behind tokens that are none ends them. -/
theorem takeWhile_append_ending {ending : Token} {more : List Token}
    (h : ∀ token ∈ ts, token.kind ≠ .eof) (hending : ending.kind = .eof) :
    (ts ++ ending :: more).takeWhile (!·.isEof) = ts := by
  rw [List.takeWhile_append_of_pos]
  · simp [Token.isEof, hending]
  · intro token htoken
    simpa [Token.isEof] using h token htoken

theorem kind_endingOf (ts : List Token) : (endingOf ts).kind = .eof := by
  rw [endingOf]
  cases hfind : ts.find? Token.isEof with
  | none => rfl
  | some token => simpa [Token.isEof] using List.find?_some hfind

/-- The reader stops at an end marker only when all tokens before the first one are read. -/
theorem kind_tokenAt_eq_eof_iff {read left : List Token}
    (h : ts.takeWhile (!·.isEof) = read ++ left) :
    (tokenAt ts read.length).kind = .eof ↔ left = [] := by
  constructor
  · intro heof
    cases left with
    | nil => rfl
    | cons token rest =>
      have hmem : token ∈ ts.takeWhile (!·.isEof) := by simp [h]
      rw [tokenAt_of_takeWhile h] at heof
      exact absurd heof (kind_ne_eof_of_mem_takeWhile hmem)
  · rintro rfl
    rw [List.append_nil] at h
    rw [← h, tokenAt_takeWhile]
    exact kind_endingOf ts

end StatementReader

/-! ## Sentences -/

open StatementReader

/-- A list of tokens is read to a query exactly if its part before the first end marker can be
derived, and the query is the one that the derivation stands for. -/
theorem ofTokens_eq_ok_iff {dialect : Dialect} {ts : List Token} {q : Query} :
    Query.ofTokens dialect ts = .ok q ↔
      ∃ written : Derivation dialect.terminatorRequired,
        tokens written = ts.takeWhile (!·.isEof) ∧ written.query = q := by
  obtain ⟨r, read, left, hcut, hrun, -, hresult⟩ := exists_read dialect ts
  rw [hresult, hcut]
  constructor
  · intro hok
    cases r with
    | error e => cases hok
    | ok q' =>
      obtain rfl := Except.ok.inj hok
      exact (run_statement_eq_ok_iff.1 hrun).2
  · intro hwritten
    obtain ⟨hr, -⟩ := Prod.mk.inj (hrun.symm.trans (run_statement_eq_ok_iff.2 ⟨rfl, hwritten⟩))
    rw [hr]
    rfl

/-- The reader accepts just the sentences of the grammar and builds what they derive; a sentence has
one derivation only. -/
theorem ofTokens_eq_ok_iff_and_unique (dialect : Dialect) (ts : List Token) (q : Query) :
    (Query.ofTokens dialect ts = .ok q ↔
      ∃ written : Derivation dialect.terminatorRequired,
        tokens written = ts.takeWhile (!·.isEof) ∧ written.query = q) ∧
    ∀ written written' : Derivation dialect.terminatorRequired,
      tokens written = tokens written' → written = written' := by
  constructor
  · exact ofTokens_eq_ok_iff
  · intro written written' h
    exact tokens_derivation_injective _ h

/-! ## Errors -/

/-- Where a statement cannot be read, other tokens of the same kinds cannot be read either. -/
theorem not_isSentence_of_run_eq_error {required : Bool} {read left read' left' : List Token}
    {e : Expected} (hrun : (Production.statement required).run (read ++ left) = (.error e, left))
    (hread : read.map Token.kind = read'.map Token.kind) (hnext : SameNext left left') :
    ¬ IsSentence required (read' ++ left') := by
  rintro ⟨written, hwritten⟩
  obtain ⟨r', hrun', hagree⟩ := inStep_statement required hrun (similar_of_kinds hread) hnext
  have hok := run_statement_eq_ok_iff.2 ⟨rfl, written, hwritten, rfl⟩
  obtain ⟨rfl, -⟩ := Prod.mk.inj (hrun'.symm.trans hok)
  cases hagree

/-- A list of tokens that begins with given kinds begins with tokens of these kinds. -/
theorem exists_append_of_kinds_prefix {read sentence : List Token} {token : Token}
    (rest : List Token)
    (h : read.map Token.kind ++ [token.kind] <+: sentence.map Token.kind) :
    ∃ read' left', sentence = read' ++ left' ∧ read.map Token.kind = read'.map Token.kind ∧
      SameNext (token :: rest) left' := by
  obtain ⟨more, hmore⟩ := h
  rw [List.append_assoc, eq_comm, List.map_eq_append_iff] at hmore
  obtain ⟨read', left', rfl, hread, hleft⟩ := hmore
  refine ⟨read', left', rfl, hread.symm, ?_⟩
  rw [SameNext, ← List.head?_map, ← List.head?_map, hleft]
  rfl

/-- Whatever could come next, the tokens that have been read begin a sentence. -/
theorem beginsSentence_of_outcome {required : Bool} {read left : List Token} {e : Expected}
    (h : (e = .endOfStatement ∧ left ≠ [] ∧ IsSentence required read) ∨
      (e ≠ .endOfStatement ∧ e.kinds ≠ [] ∧ ∀ token : Token, token.kind ∈ e.kinds →
        ∃ rest, IsSentence required (read ++ token :: rest))) : BeginsSentence required read := by
  rcases h with ⟨-, -, hsentence⟩ | ⟨-, hkinds, hnext⟩
  · exact ⟨[], by rwa [List.append_nil]⟩
  · obtain ⟨kind, hkind⟩ := List.exists_mem_of_ne_nil _ hkinds
    obtain ⟨rest, hrest⟩ := hnext ⟨kind, "", .emptyAt 0⟩ hkind
    exact ⟨_, hrest⟩

/-- An error tells of the token at an index: it is the first that no sentence has there. -/
structure FirstMisfit (required : Bool) (ts : List Token) (i : Nat) (e : SyntaxError) : Prop where
  found : e.found = (tokenAt ts i).kind
  text : e.text = (tokenAt ts i).text
  position : e.position = (tokenAt ts i).span.start
  /-- No end marker stands before the token. -/
  kind_ne_eof : ∀ token ∈ ts.take i, token.kind ≠ .eof
  /-- The tokens before it begin a sentence. -/
  begins : BeginsSentence required (ts.take i)
  /-- No sentence begins with tokens of their kinds and one of this token's kind. -/
  misfit : (tokenAt ts i).kind ≠ .eof → ∀ sentence, IsSentence required sentence →
    ¬ (ts.take i).map Token.kind ++ [(tokenAt ts i).kind] <+: sentence.map Token.kind
  /-- The end of the statement comes too soon. -/
  incomplete : (tokenAt ts i).kind = .eof → ¬ IsSentence required (ts.take i)
  /-- A token of a kind that the error names would lead on. -/
  expected : e.expected ≠ .endOfStatement → ∀ token : Token, token.kind ∈ e.expected.kinds →
    BeginsSentence required (ts.take i ++ [token])
  /-- The statement was complete, and more follows. -/
  trailing : e.expected = .endOfStatement →
    (tokenAt ts i).kind ≠ .eof ∧ IsSentence required (ts.take i)

/-- A list of tokens that is not read to a query is left at the first token that does not fit. -/
theorem firstMisfit_of_ofTokens_eq_error {dialect : Dialect} {ts : List Token} {e : SyntaxError}
    (h : Query.ofTokens dialect ts = .error e) :
    FirstMisfit dialect.terminatorRequired ts (ofTokens dialect ts).read.2.cursor e := by
  obtain ⟨r, read, left, hcut, hrun, hcursor, hresult⟩ := exists_read dialect ts
  rw [hresult] at h
  cases r with
  | ok q => cases h
  | error expected =>
    obtain rfl := Except.error.inj h
    have htake := take_length_read hcut
    have heof := kind_tokenAt_eq_eof_iff hcut
    obtain ⟨read', hread', houtcome⟩ := run_statement_eq_error hrun
    obtain rfl := List.append_cancel_right hread'
    rw [hcursor]
    refine ⟨rfl, rfl, rfl, ?_, ?_, ?_, ?_, ?_, ?_⟩ <;> try rw [htake]
    · intro token htoken
      have hmem : token ∈ ts.takeWhile (!·.isEof) := by simp [hcut, htoken]
      exact kind_ne_eof_of_mem_takeWhile hmem
    · exact beginsSentence_of_outcome houtcome
    · intro hne sentence hsentence hprefix
      cases left with
      | nil => exact hne (heof.2 rfl)
      | cons token rest =>
        rw [tokenAt_of_takeWhile hcut] at hprefix
        obtain ⟨read', left', rfl, hkinds, hnext⟩ := exists_append_of_kinds_prefix rest hprefix
        exact not_isSentence_of_run_eq_error hrun hkinds hnext hsentence
    · intro hend hsentence
      rw [heof] at hend
      subst hend
      exact not_isSentence_of_run_eq_error hrun rfl rfl (by simpa using hsentence)
    · intro hne token htoken
      rcases houtcome with ⟨hend, -⟩ | ⟨-, -, hnext⟩
      · exact absurd hend hne
      · obtain ⟨rest, hrest⟩ := hnext token htoken
        exact ⟨rest, by simpa using hrest⟩
    · intro hend
      rcases houtcome with ⟨-, hleft, hsentence⟩ | ⟨hne, -⟩
      · exact ⟨fun hkind => hleft (heof.1 hkind), hsentence⟩
      · exact absurd hend hne

/-- A projection is missing where FROM follows SELECT at once. -/
theorem firstMisfit_select_from :
    FirstMisfit false
      [⟨.keyword .select, "SELECT", ⟨0, 6⟩⟩, ⟨.keyword .from, "FROM", ⟨7, 11⟩⟩] 1
      ⟨.kind .identifier, .keyword .from, "FROM", 7⟩ := by
  have h : Query.ofTokens .lenient
      [⟨.keyword .select, "SELECT", ⟨0, 6⟩⟩, ⟨.keyword .from, "FROM", ⟨7, 11⟩⟩] =
        .error ⟨.kind .identifier, .keyword .from, "FROM", 7⟩ := rfl
  exact firstMisfit_of_ofTokens_eq_error h

end SelectLang

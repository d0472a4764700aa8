import SelectLang.Proofs.Grammar.Tokens
import SelectLang.Proofs.Statement.Outcome

/-!
# Kinds decide, texts are kept

Of the tokens of a statement only the kinds matter for how it is read; the texts of the names, the
numbers and the strings go into the query, each once and in the order in which they stand.

* `carriedTexts_derivation` — what the tokens of a derivation carry is what its query holds;
* `readAlike_of_kinds` — two lists of tokens of the same kinds are read alike.
-/

namespace SelectLang

open Phrase (tokens)
open StatementReader

/-! ## Texts -/

instance : DecidablePred Kind.CarriesText := fun _ => inferInstanceAs (Decidable (_ ∨ _))

/-- The text of the token, if it stands for itself. -/
def Token.carried? (token : Token) : Option String :=
  if token.kind.CarriesText then some token.text else none

/-- The texts that the tokens carry, in the order in which they stand. -/
def carriedTexts (ts : List Token) : List String := ts.filterMap Token.carried?

/-- The column and what it is compared with. -/
def Comparison.texts (c : Comparison) : List String := [c.column, c.operand.text]

/-- The texts in the comparisons, from left to right. -/
def Condition.texts (c : Condition) : List String := c.comparisons.flatMap Comparison.texts

/-- The texts in a query, clause by clause in the order in which clauses are written. -/
def Query.texts (q : Query) : List String :=
  q.columns.names?.getD [] ++ q.tables ++ q.filter.elim [] Condition.texts ++ q.grouping ++
    q.having.elim [] Condition.texts ++ q.ordering.map SortKey.column

/-! ## Texts of derivations -/

section

variable {kind : Kind}

theorem carried?_of_carriesText (h : kind.CarriesText) (leaf : Leaf kind) :
    leaf.val.carried? = some leaf.val.text := by
  rw [Token.carried?, leaf.property, if_pos h]

theorem carried?_of_not_carriesText (h : ¬ kind.CarriesText) (leaf : Leaf kind) :
    leaf.val.carried? = none := by
  rw [Token.carried?, leaf.property, if_neg h]

theorem carriedTexts_of_carriesText (h : kind.CarriesText) (leaf : Leaf kind) :
    carriedTexts [leaf.val] = [leaf.val.text] := by
  rw [carriedTexts, List.filterMap_cons, carried?_of_carriesText h, List.filterMap_nil]

theorem carriedTexts_of_not_carriesText (h : ¬ kind.CarriesText) (leaf : Leaf kind) :
    carriedTexts [leaf.val] = [] := by
  rw [carriedTexts, List.filterMap_cons, carried?_of_not_carriesText h, List.filterMap_nil]

end

theorem not_carriesText_keyword (k : Keyword) : ¬ (Kind.keyword k).CarriesText := by
  simp [Kind.CarriesText]

@[simp] theorem carriedTexts_keyword {k : Keyword} (leaf : Leaf (.keyword k)) :
    carriedTexts [leaf.val] = [] :=
  carriedTexts_of_not_carriesText (not_carriesText_keyword k) leaf

@[simp] theorem carriedTexts_append (ts us : List Token) :
    carriedTexts (ts ++ us) = carriedTexts ts ++ carriedTexts us := List.filterMap_append

theorem carriedTexts_names (names : WrittenNames) :
    carriedTexts (tokens names) = WrittenNames.names names := by
  rw [carriedTexts, filterMap_chain (carried?_of_not_carriesText (by decide)), WrittenNames.names,
    List.map_eq_flatMap]
  exact List.flatMap_congr fun name _ => carriedTexts_of_carriesText (Or.inl rfl) name

theorem carriedTexts_projection (projection : WrittenProjection) :
    carriedTexts (tokens projection) = projection.projection.names?.getD [] := by
  cases projection with
  | all star => exact carriedTexts_of_not_carriesText (by decide) star
  | columns names => exact carriedTexts_names names

theorem carried?_operand (operand : WrittenOperand) :
    operand.token.carried? = some operand.operand.text := by
  cases operand with
  | column leaf => exact carried?_of_carriesText (Or.inl rfl) leaf
  | number leaf => exact carried?_of_carriesText (Or.inr (Or.inl rfl)) leaf
  | string leaf => exact carried?_of_carriesText (Or.inr (Or.inr rfl)) leaf

theorem carriedTexts_comparison (written : WrittenComparison) :
    carriedTexts (tokens written) = written.comparison.texts := by
  obtain ⟨column, ⟨op, leaf⟩, operand⟩ := written
  change carriedTexts ([column.val] ++ ([leaf.val] ++ [operand.token])) =
    [column.val.text, operand.operand.text]
  have hop : ¬ (Kind.comparator op).CarriesText := by simp [Kind.CarriesText]
  have hoperand : carriedTexts [operand.token] = [operand.operand.text] := by
    rw [carriedTexts, List.filterMap_cons, carried?_operand, List.filterMap_nil]
  rw [carriedTexts_append, carriedTexts_append, carriedTexts_of_carriesText (Or.inl rfl),
    carriedTexts_of_not_carriesText hop, hoperand]
  rfl

theorem carriedTexts_condition (written : WrittenCondition) :
    carriedTexts (tokens written) = (WrittenCondition.condition written).texts := by
  rw [carriedTexts, Condition.texts]
  apply filterMap_condition
  · intro k leaf
    exact carried?_of_not_carriesText (not_carriesText_keyword k) leaf
  · intro comparison
    exact carriedTexts_comparison comparison

theorem carriedTexts_announced {τ : Type} [Phrase τ] {keyword : Keyword}
    (part : Announced keyword τ) :
    carriedTexts (tokens part) = part.elim [] fun pair => carriedTexts (tokens pair.2) :=
  filterMap_announced (carried?_of_not_carriesText (not_carriesText_keyword keyword)) part

theorem carriedTexts_groups (written : WrittenGroups) :
    carriedTexts (tokens written) =
      written.groups.1 ++ written.groups.2.elim [] Condition.texts := by
  obtain ⟨byWord, names, having⟩ := written
  change carriedTexts ([byWord.val] ++ (tokens names ++ tokens having)) = _
  rw [carriedTexts_append, carriedTexts_append, carriedTexts_keyword, List.nil_append,
    carriedTexts_names, carriedTexts_announced]
  cases having with
  | none => rfl
  | some pair => exact congrArg _ (carriedTexts_condition pair.2)

theorem carriedTexts_sortKey (key : WrittenSortKey) :
    carriedTexts (tokens key) = [key.sortKey.column] := by
  obtain ⟨column, direction⟩ := key
  change carriedTexts ([column.val] ++ tokens direction) = [column.val.text]
  have hdirection : carriedTexts (tokens direction) = [] := by
    cases direction with
    | desc leaf => exact carriedTexts_keyword leaf
    | asc leaf => exact carriedTexts_keyword leaf
    | unwritten => rfl
  rw [carriedTexts_append, hdirection, List.append_nil, carriedTexts_of_carriesText (Or.inl rfl)]

theorem carriedTexts_ordering (written : WrittenOrdering) :
    carriedTexts (tokens written) = written.sortKeys.map SortKey.column := by
  obtain ⟨byWord, keys⟩ := written
  change carriedTexts ([byWord.val] ++ tokens keys) = _
  rw [carriedTexts_append, carriedTexts_keyword, List.nil_append, carriedTexts,
    filterMap_chain (carried?_of_not_carriesText (by decide)), WrittenOrdering.sortKeys,
    List.map_map, List.map_eq_flatMap]
  exact List.flatMap_congr fun key _ => carriedTexts_sortKey key

/-- The texts that the tokens of a derivation carry are those in its query. -/
theorem carriedTexts_derivation {required : Bool} (written : Derivation required) :
    carriedTexts (tokens written) = written.query.texts := by
  obtain ⟨select, projection, fromWord, tables, filter, groups, ordering, terminator⟩ := written
  change carriedTexts ([select.val] ++ (tokens projection ++ ([fromWord.val] ++ (tokens tables ++
    (tokens filter ++ (tokens groups ++ (tokens ordering ++ tokens terminator))))))) = _
  have hterminator : carriedTexts (tokens terminator) = [] := by
    obtain ⟨- | leaf, h⟩ := terminator
    · rfl
    · exact carriedTexts_of_not_carriesText (by decide) leaf
  simp only [carriedTexts_append, carriedTexts_keyword, carriedTexts_projection,
    carriedTexts_names, carriedTexts_announced, carriedTexts_condition, carriedTexts_groups,
    carriedTexts_ordering, hterminator, List.nil_append, List.append_nil]
  cases filter <;> cases groups <;> cases ordering <;>
    simp [Query.texts, Derivation.query, WrittenGroups.groups]

/-! ## Tokens of the same kinds -/

variable {dialect : Dialect} {ts ts' : List Token}

/-- The texts in a query are those of the names, the numbers and the strings that it was read
from. -/
theorem texts_of_ofTokens {q : Query} (h : Query.ofTokens dialect ts = .ok q) :
    q.texts = carriedTexts (ts.takeWhile (!·.isEof)) := by
  obtain ⟨written, htokens, rfl⟩ := ofTokens_eq_ok_iff.1 h
  rw [← htokens, carriedTexts_derivation]

/-- What is read from two lists of tokens of the same kinds. -/
inductive ReadAlike (ts ts' : List Token) :
    Except SyntaxError Query → Except SyntaxError Query → Prop
  /-- Two queries that are built alike, each with the texts of its tokens. -/
  | ok {q q' : Query} (shape : q.Similar (fun _ _ => True) q')
      (texts : q.texts = carriedTexts (ts.takeWhile (!·.isEof)))
      (texts' : q'.texts = carriedTexts (ts'.takeWhile (!·.isEof))) :
      ReadAlike ts ts' (.ok q) (.ok q')
  /-- The same failure at tokens of the same kind. -/
  | error {e e' : SyntaxError} (expected : e.expected = e'.expected) (found : e.found = e'.found) :
      ReadAlike ts ts' (.error e) (.error e')

theorem kinds_eq_of_similar {S : String → String → Prop}
    (h : List.Forall₂ (Token.Similar S) ts ts') : ts.map Token.kind = ts'.map Token.kind := by
  induction h with
  | nil => rfl
  | cons htoken _ ih => rw [List.map_cons, List.map_cons, htoken.kind, ih]

theorem forall₂_takeWhile {S : String → String → Prop}
    (h : List.Forall₂ (Token.Similar S) ts ts') :
    List.Forall₂ (Token.Similar S) (ts.takeWhile (!·.isEof)) (ts'.takeWhile (!·.isEof)) := by
  induction h with
  | nil => exact .nil
  | @cons token token' _ _ htoken _ ih =>
    have heof : token.isEof = token'.isEof := by rw [Token.isEof, Token.isEof, htoken.kind]
    rw [List.takeWhile_cons, List.takeWhile_cons, heof]
    cases token'.isEof with
    | true => exact .nil
    | false => exact .cons htoken ih

theorem kind_tokenAt (h : ts.map Token.kind = ts'.map Token.kind) (i : Nat) :
    (tokenAt ts i).kind = (tokenAt ts' i).kind := by
  have hmap : ∀ us : List Token, (tokenAt us i).kind = ((us.map Token.kind)[i]?).getD .eof := by
    intro us
    rw [tokenAt, List.getElem?_map]
    cases us[i]? <;> rfl
  rw [hmap, hmap, h]

/-- Two lists of similar tokens are read in step, up to the same place. -/
theorem exists_reads_of_similar {S : String → String → Prop} (dialect : Dialect)
    (h : List.Forall₂ (Token.Similar S) ts ts') :
    ∃ (r r' : Except Expected Query) (i : Nat), Agree (Query.Similar S) r r' ∧
      (ofTokens dialect ts).read.2.cursor = i ∧ (ofTokens dialect ts').read.2.cursor = i ∧
      Query.ofTokens dialect ts = r.mapError (.ofToken (tokenAt ts i)) ∧
      Query.ofTokens dialect ts' = r'.mapError (.ofToken (tokenAt ts' i)) := by
  obtain ⟨r, read, left, hcut, hrun, hcursor, hresult⟩ := exists_read dialect ts
  obtain ⟨r', read', left', hcut', hrun', hcursor', hresult'⟩ := exists_read dialect ts'
  -- cut the second list where the first reader stops
  have hsimilar := forall₂_takeWhile h
  rw [hcut] at hsimilar
  obtain ⟨front, rest, hfront, hread, hleft⟩ := exists_append_of_forall₂ hsimilar
  have hnext : SameNext left rest := by
    rw [SameNext, ← List.head?_map, ← List.head?_map, kinds_eq_of_similar hleft]
  obtain ⟨outcome, hstep, hagree⟩ := inStep_statement dialect.terminatorRequired hrun hread hnext
  -- the second reader stops there too
  rw [← hfront, hcut'] at hstep
  obtain ⟨rfl, rfl⟩ := Prod.mk.inj (hrun'.symm.trans hstep)
  obtain rfl := List.append_cancel_right (hcut'.symm.trans hfront)
  have hlength : read'.length = read.length := hread.length_eq.symm
  rw [hlength] at hcursor' hresult'
  exact ⟨r, r', read.length, hagree, hcursor, hcursor', hresult, hresult'⟩

/-- Two lists of tokens of the same kinds are read up to the same token, to queries of one shape or
to the same error.  A query holds the texts that its tokens carry, in the order in which they
stand. -/
theorem readAlike_of_kinds (dialect : Dialect) (h : ts.map Token.kind = ts'.map Token.kind) :
    (ofTokens dialect ts).read.2.cursor = (ofTokens dialect ts').read.2.cursor ∧
      ReadAlike ts ts' (Query.ofTokens dialect ts) (Query.ofTokens dialect ts') := by
  obtain ⟨r, r', i, hagree, hcursor, hcursor', hresult, hresult'⟩ :=
    exists_reads_of_similar dialect (similar_of_kinds h)
  refine ⟨hcursor.trans hcursor'.symm, ?_⟩
  cases hagree with
  | ok hshape =>
    have htexts := texts_of_ofTokens hresult
    have htexts' := texts_of_ofTokens hresult'
    rw [hresult, hresult']
    exact .ok hshape htexts htexts'
  | error e =>
    rw [hresult, hresult']
    exact .error rfl (kind_tokenAt h i)

/-- Texts are kept even where they look like other tokens. -/
theorem readAlike_select_where :
    let ts : List Token :=
      [⟨.keyword .select, "SELECT", ⟨0, 6⟩⟩, ⟨.identifier, "a", ⟨7, 8⟩⟩,
        ⟨.keyword .from, "FROM", ⟨9, 13⟩⟩, ⟨.identifier, "t", ⟨14, 15⟩⟩,
        ⟨.keyword .where, "WHERE", ⟨16, 21⟩⟩, ⟨.identifier, "b", ⟨22, 23⟩⟩,
        ⟨.comparator .eq, "=", ⟨24, 25⟩⟩, ⟨.string, "x", ⟨26, 29⟩⟩]
    let ts' : List Token :=
      [⟨.keyword .select, "", ⟨0, 0⟩⟩, ⟨.identifier, "FROM", ⟨0, 0⟩⟩,
        ⟨.keyword .from, "", ⟨0, 0⟩⟩, ⟨.identifier, "*", ⟨0, 0⟩⟩,
        ⟨.keyword .where, "", ⟨0, 0⟩⟩, ⟨.identifier, ";", ⟨0, 0⟩⟩,
        ⟨.comparator .eq, "<", ⟨0, 0⟩⟩, ⟨.string, "", ⟨0, 0⟩⟩]
    ReadAlike ts ts' (Query.ofTokens .lenient ts) (Query.ofTokens .lenient ts') ∧
      Query.ofTokens .lenient ts = .ok
        { columns := .columns ["a"], tables := ["t"]
          filter := some (.leaf ⟨"b", .eq, .string "x"⟩) } ∧
      Query.ofTokens .lenient ts' = .ok
        { columns := .columns ["FROM"], tables := ["*"]
          filter := some (.leaf ⟨";", .eq, .string ""⟩) } := by
  refine ⟨?_, ?_, ?_⟩
  · refine (readAlike_of_kinds .lenient ?_).2
    rfl
  · decide +kernel
  · decide +kernel

end SelectLang

import SelectLang.Proofs.Grammar.Reads
import SelectLang.Statement.Grammar

/-!
# The productions and the grammar

Each production reads the trees of its part of the grammar (`reads_name` to `reads_clauses`), from
the parts to the whole.  `run_statement_eq_ok_iff`: a statement is read exactly where its tokens
can be derived, and the result is the query that the derivation stands for.
-/

namespace SelectLang

open Phrase (tokens)
open Production

/-! ## Names and projections -/

theorem reads_name : Reads name (fun leaf : Leaf .identifier => leaf.val.text) ∅ := by
  refine Reads.take Subtype.val (fun _ => rfl) ?_ (List.cons_ne_nil _ _) ?_
    Subtype.val_injective
  · intro token a
    by_cases h : token.kind = .identifier <;> simp [h]
  · intro token htoken
    exact ⟨⟨token, List.mem_singleton.1 htoken⟩, rfl⟩

theorem reads_names : Reads names WrittenNames.names {.comma} := by
  have hchain := reads_chain reads_name (Set.notMem_empty Kind.comma)
  rw [insert_empty_eq] at hchain
  rw [names]
  refine (hchain.map (g := fun pair => pair.1 :: pair.2) fun _ => rfl).ofEquiv
    (Equiv.refl _) (fun _ => rfl) fun written => ?_
  simp [WrittenNames.names, Chain.parts]

theorem reads_projection : Reads projection WrittenProjection.projection {.comma} := by
  have hcolumns := reads_names.map (f := fun names => pure (.columns names))
    (g := Projection.columns) fun _ => rfl
  have hbranch := reads_branch .star (reads_pure Projection.all {.comma}) hcolumns (by
    intro names left _
    simp [names.first.property])
  rw [projection]
  refine hbranch.ofEquiv
    ⟨fun written => written.casesOn (fun star => .inl (star, ())) fun names => .inr names,
      Sum.elim (fun pair => .all pair.1) .columns, ?_, ?_⟩ ?_ ?_
  · rintro (_ | _) <;> rfl
  · rintro (_ | _) <;> rfl
  · rintro (_ | _) <;> rfl
  · rintro (_ | _) <;> rfl

/-! ## Conditions -/

theorem reads_comparator : Reads comparator WrittenComparator.op ∅ := by
  have : Nonempty WrittenComparator := ⟨⟨.eq, ⟨.comparator .eq, "", .emptyAt 0⟩, rfl⟩⟩
  refine Reads.take (fun written : WrittenComparator => written.leaf.val) (fun _ => rfl) ?_
    (List.cons_ne_nil _ _) ?_ ?_
  · intro token op
    constructor
    · intro h
      refine ⟨⟨op, ⟨token, ?_⟩⟩, rfl, rfl⟩
      cases hkind : token.kind <;> simp_all [Kind.comparator?]
    · rintro ⟨⟨op, leaf⟩, rfl, rfl⟩
      simp [leaf.property, Kind.comparator?]
  · intro token htoken
    obtain ⟨op, hop⟩ : ∃ op, token.kind = .comparator op := by
      simp only [Expected.kinds, List.mem_cons, List.not_mem_nil, or_false] at htoken
      rcases htoken with h | h | h | h | h | h <;> exact ⟨_, h⟩
    exact ⟨⟨op, ⟨token, hop⟩⟩, rfl⟩
  · rintro ⟨op, token, hop⟩ ⟨op', token', hop'⟩ rfl
    obtain rfl := Kind.comparator.inj (hop.symm.trans hop')
    rfl

theorem reads_operand : Reads operand WrittenOperand.operand ∅ := by
  have : Nonempty WrittenOperand := ⟨.column ⟨⟨.identifier, "", .emptyAt 0⟩, rfl⟩⟩
  refine Reads.take WrittenOperand.token (fun _ => rfl) ?_ (List.cons_ne_nil _ _) ?_ ?_
  · intro token value
    constructor
    · intro h
      cases hkind : token.kind <;> simp only [operandOf?, hkind, reduceCtorEq] at h <;>
        obtain rfl := Option.some.inj h
      · exact ⟨.column ⟨token, hkind⟩, rfl, rfl⟩
      · exact ⟨.number ⟨token, hkind⟩, rfl, rfl⟩
      · exact ⟨.string ⟨token, hkind⟩, rfl, rfl⟩
    · rintro ⟨leaf | leaf | leaf, rfl, rfl⟩ <;>
        simp [operandOf?, WrittenOperand.token, leaf.property, WrittenOperand.operand]
  · intro token htoken
    simp only [Expected.kinds, List.mem_cons, List.not_mem_nil, or_false] at htoken
    rcases htoken with h | h | h
    · exact ⟨.column ⟨token, h⟩, rfl⟩
    · exact ⟨.number ⟨token, h⟩, rfl⟩
    · exact ⟨.string ⟨token, h⟩, rfl⟩
  · rintro (⟨token, h⟩ | ⟨token, h⟩ | ⟨token, h⟩) (⟨token', h'⟩ | ⟨token', h'⟩ | ⟨token', h'⟩) rfl
      <;> first | rfl | cases h.symm.trans h'

theorem reads_comparison : Reads comparison WrittenComparison.comparison ∅ := by
  have hrest : ∀ column : Leaf .identifier,
      Reads (comparator >>= fun op => operand >>= fun value => pure ⟨column.val.text, op, value⟩)
        (fun pair : WrittenComparator × WrittenOperand =>
          Comparison.mk column.val.text pair.1.op pair.2.operand) ∅ := by
    intro column
    exact reads_comparator.bind
      (f := fun op => operand >>= fun value => pure ⟨column.val.text, op, value⟩)
      (fun op => reads_operand.map (g := Comparison.mk column.val.text op.op) fun _ => rfl)
      fun _ _ _ => stops_empty _
  rw [comparison]
  exact (reads_name.bind hrest fun _ _ _ => stops_empty _).ofEquiv
    ⟨fun written => (written.column, written.comparator, written.operand),
      fun t => ⟨t.1, t.2.1, t.2.2⟩, fun _ => rfl, fun _ => rfl⟩ (fun _ => rfl) fun _ => rfl

theorem reads_conjunction :
    Reads conjunction WrittenConjunction.condition {.keyword .and} := by
  have hchain := reads_chain reads_comparison (Set.notMem_empty (Kind.keyword .and))
  rw [insert_empty_eq] at hchain
  rw [conjunction]
  refine (hchain.map (g := fun pair => Condition.chain .and (.leaf pair.1) (pair.2.map .leaf))
    fun _ => rfl).ofEquiv (Equiv.refl _) (fun _ => rfl) fun written => ?_
  simp [WrittenConjunction.condition, Condition.chain_eq_joined, Function.comp_def]

theorem reads_condition :
    Reads condition WrittenCondition.condition {.keyword .or, .keyword .and} := by
  have hor : Kind.keyword .or ∉ ({.keyword .and} : Set Kind) := by simp
  rw [condition]
  exact (reads_chain reads_conjunction hor).map
    (g := fun pair => Condition.joined .or pair.1 pair.2) fun pair => by
      rw [← Condition.chain_eq_joined]

/-! ## Clauses -/

theorem reads_direction :
    Reads direction WrittenDirection.direction {.keyword .desc, .keyword .asc} := by
  have hasc := ((reads_accept (.keyword .asc)).map (f := fun _ => pure Direction.asc)
    (g := fun _ => Direction.asc) fun _ => rfl).mono (Set.subset_insert (.keyword .desc) _)
  have hbranch := reads_branch (.keyword .desc) (reads_pure Direction.desc _) hasc (by
    intro found left hleft
    cases found with
    | none => exact (stops_insert.1 hleft).1
    | some leaf => simp [leaf.property])
  rw [direction]
  refine hbranch.ofEquiv
    ⟨fun written => written.casesOn (fun leaf => .inl (leaf, ())) (fun leaf => .inr (some leaf))
        (.inr none),
      Sum.elim (fun pair => .desc pair.1) (fun found => found.elim .unwritten .asc), ?_, ?_⟩ ?_ ?_
  · rintro (_ | _ | _) <;> rfl
  · rintro (_ | _ | _) <;> rfl
  · rintro (_ | _ | _) <;> rfl
  · rintro (_ | _ | _) <;> rfl

theorem reads_sortKey :
    Reads sortKey WrittenSortKey.sortKey {.keyword .desc, .keyword .asc} := by
  rw [sortKey]
  exact (reads_name.bind (fun column => reads_direction.map
    (g := SortKey.mk column.val.text) fun _ => rfl) fun _ _ _ => stops_empty _).ofEquiv
    ⟨fun written => (written.column, written.direction), fun t => ⟨t.1, t.2⟩,
      fun _ => rfl, fun _ => rfl⟩ (fun _ => rfl) fun _ => rfl

theorem reads_groups :
    Reads groups WrittenGroups.groups
      (insert .comma {.keyword .having, .keyword .or, .keyword .and}) := by
  have hhaving : ∀ columns : List String,
      Reads (announced (.keyword .having) condition >>= fun having => pure (columns, having))
        (fun part : Announced .having WrittenCondition =>
          (columns, part.map fun pair => WrittenCondition.condition pair.2))
        (insert .comma {.keyword .having, .keyword .or, .keyword .and}) := by
    intro columns
    exact ((reads_announced reads_condition).map (g := Prod.mk columns) fun _ => rfl).mono
      (Set.subset_insert _ _)
  have hnames := reads_names.bind
    (f := fun columns => announced (.keyword .having) condition >>= fun having =>
      pure (columns, having))
    (fun written => hhaving (WrittenNames.names written)) fun part left hleft =>
      stops_announced (by simp) part (stops_insert.1 hleft).1
  rw [groups]
  exact ((reads_expect (.keyword .by)).bind (fun _ => hnames) fun _ _ _ => stops_empty _).ofEquiv
    ⟨fun written => (written.byWord, written.names, written.having),
      fun t => ⟨t.1, t.2.1, t.2.2⟩, fun _ => rfl, fun _ => rfl⟩ (fun _ => rfl) fun _ => rfl

theorem reads_ordering :
    Reads ordering WrittenOrdering.sortKeys
      (insert .comma {.keyword .desc, .keyword .asc}) := by
  have hcomma : Kind.comma ∉ ({.keyword .desc, .keyword .asc} : Set Kind) := by simp
  have hkeys := (reads_chain reads_sortKey hcomma).map
    (f := fun pair => pure (pair.1 :: pair.2)) (g := fun pair => pair.1 :: pair.2) fun _ => rfl
  rw [ordering]
  refine ((reads_expect (.keyword .by)).bind (fun _ => hkeys) fun _ _ _ =>
    stops_empty _).ofEquiv ⟨fun written => (written.byWord, written.keys), fun t => ⟨t.1, t.2⟩,
      fun _ => rfl, fun _ => rfl⟩ (fun _ => rfl) fun written => ?_
  simp [WrittenOrdering.sortKeys, Chain.parts]

theorem reads_terminator (required : Bool) :
    Reads (terminator required) (fun written : WrittenTerminator required => written.val.isSome)
      {.semicolon} := by
  cases required with
  | false =>
    rw [terminator, if_neg Bool.false_ne_true]
    exact (reads_accept .semicolon).ofEquiv
      ⟨fun written => written.val, fun found => ⟨found, by simp⟩, fun _ => rfl, fun _ => rfl⟩
      (fun _ => rfl) fun _ => rfl
  | true =>
    rw [terminator, if_pos rfl]
    refine (((reads_expect .semicolon).map (g := fun _ => true) fun _ => rfl).mono
      (Set.empty_subset _)).ofEquiv ⟨fun written => written.val.get (written.property rfl),
        fun leaf => ⟨some leaf, fun _ => rfl⟩, fun written => ?_, fun _ => rfl⟩ ?_ ?_
    · exact Subtype.ext (Option.some_get _)
    · rintro ⟨- | leaf, h⟩
      · cases h rfl
      · rfl
    · rintro ⟨- | leaf, h⟩
      · cases h rfl
      · rfl

theorem stops_terminator {required : Bool} {more : Set Kind} (hsemicolon : .semicolon ∉ more)
    (written : WrittenTerminator required) {left : List Token} (hleft : Stops more left) :
    Stops more (tokens written ++ left) := by
  obtain ⟨- | leaf, h⟩ := written
  · exact hleft
  · change leaf.val.kind ∉ more
    rwa [leaf.property]

/-! ## Statements -/

/-- From the last clause to the first, each part is read before those that come after it.  No part
can run on into a later clause, because a later clause begins with a keyword of its own. -/
theorem reads_clauses (required : Bool) :
    Reads (clauses required) (fun written : Derivation required => written.query) Set.univ := by
  have hquery := fun (columns : WrittenProjection) (tables : WrittenNames)
      (filter : Announced .where WrittenCondition) (grouped : Announced .group WrittenGroups)
      (ordering : Announced .order WrittenOrdering) =>
    ((reads_terminator required).map (g := Query.mk columns.projection (WrittenNames.names tables)
      (filter.map fun pair => WrittenCondition.condition pair.2)
      ((grouped.map fun pair => pair.2.groups).getD ([], none)).1
      ((grouped.map fun pair => pair.2.groups).getD ([], none)).2
      ((ordering.map fun pair => pair.2.sortKeys).getD [])) fun _ => rfl).mono
    (Set.subset_univ _)
  rw [clauses]
  refine ((reads_expect (.keyword .select)).bind (fun _ =>
    reads_projection.bind (fun columns =>
    (reads_expect (.keyword .from)).bind (fun _ =>
    reads_names.bind (fun tables =>
    (reads_announced reads_condition).bind (fun filter =>
    (reads_announced reads_groups).bind (fun grouped =>
    (reads_announced reads_ordering).bind (fun ordering =>
      hquery columns tables filter grouped ordering) ?ordering) ?groups) ?filter) ?tables)
      fun _ _ _ => stops_empty _) ?projection) fun _ _ _ => stops_empty _).ofEquiv
    ⟨fun written => (written.select, written.projection, written.fromWord, written.tables,
        written.filter, written.groups, written.ordering, written.terminator),
      fun ⟨select, projection, fromWord, tables, filter, groups, ordering, terminator⟩ =>
        ⟨select, projection, fromWord, tables, filter, groups, ordering, terminator⟩,
      fun _ => rfl, fun _ => rfl⟩ (fun _ => rfl) ?query
  case ordering =>
    intro terminator left hleft
    exact stops_terminator (by simp) terminator (hleft.mono (Set.subset_univ _))
  case groups =>
    rintro ⟨ordering, terminator⟩ left hleft
    rw [tokens_pair, List.append_assoc]
    exact stops_announced (by simp) ordering
      (stops_terminator (by simp) terminator (hleft.mono (Set.subset_univ _)))
  case filter =>
    rintro ⟨grouped, ordering, terminator⟩ left hleft
    simp only [tokens_pair, List.append_assoc]
    exact stops_announced (by simp) grouped (stops_announced (by simp) ordering
      (stops_terminator (by simp) terminator (hleft.mono (Set.subset_univ _))))
  case tables =>
    rintro ⟨filter, grouped, ordering, terminator⟩ left hleft
    simp only [tokens_pair, List.append_assoc]
    exact stops_announced (by simp) filter (stops_announced (by simp) grouped
      (stops_announced (by simp) ordering
        (stops_terminator (by simp) terminator (hleft.mono (Set.subset_univ _)))))
  case projection =>
    rintro ⟨fromWord, rest⟩ left _
    simp [fromWord.property]
  case query =>
    rintro ⟨select, projection, fromWord, tables, filter, groups, ordering, terminator⟩
    cases groups <;> rfl

/-- A statement is what its clauses are, if no token is left after them. -/
theorem run_statement (required : Bool) (ts : List Token) :
    (statement required).run ts =
      match (clauses required).run ts with
      | (.error e, left) => (.error e, left)
      | (.ok q, []) => (.ok q, [])
      | (.ok _, token :: rest) => (.error .endOfStatement, token :: rest) := by
  rw [statement, run_bind]
  rcases (clauses required).run ts with ⟨e | q, - | ⟨token, rest⟩⟩ <;> rfl

/-- A statement is read exactly where its tokens can be derived, to the query that the derivation
stands for and to the last token. -/
theorem run_statement_eq_ok_iff {required : Bool} {ts left : List Token} {q : Query} :
    (statement required).run ts = (.ok q, left) ↔
      left = [] ∧ ∃ written : Derivation required, tokens written = ts ∧ written.query = q := by
  have hclauses := reads_clauses required
  rw [run_statement]
  constructor
  · intro hrun
    split at hrun
    · cases (Prod.mk.inj hrun).1
    · rename_i q' hfirst
      obtain ⟨hq, rfl⟩ := Prod.mk.inj hrun
      obtain ⟨written, rfl, rfl⟩ := hclauses.sound hfirst
      exact ⟨rfl, written, by simp, Except.ok.inj hq⟩
    · cases (Prod.mk.inj hrun).1
  · rintro ⟨rfl, written, rfl, rfl⟩
    have hrun := hclauses.complete written (stops_nil _)
    rw [List.append_nil] at hrun
    rw [hrun]

/-- A statement that is not read is left either after a whole sentence, or at a token in whose place
each of the kinds named would lead on to a sentence. -/
theorem run_statement_eq_error {required : Bool} {ts left : List Token} {e : Expected}
    (hrun : (statement required).run ts = (.error e, left)) :
    ∃ read, ts = read ++ left ∧
      ((e = .endOfStatement ∧ left ≠ [] ∧ IsSentence required read) ∨
        (e ≠ .endOfStatement ∧ e.kinds ≠ [] ∧ ∀ token : Token, token.kind ∈ e.kinds →
          ∃ rest, IsSentence required (read ++ token :: rest))) := by
  have hclauses := reads_clauses required
  rw [run_statement] at hrun
  split at hrun
  · rename_i e' left' hfirst
    obtain ⟨he, rfl⟩ := Prod.mk.inj hrun
    obtain rfl := Except.error.inj he
    obtain ⟨read, rfl, hne, hnext⟩ := hclauses.viable hfirst
    refine ⟨read, rfl, Or.inr ⟨?_, hne, fun token htoken => ?_⟩⟩
    · rintro rfl
      exact hne rfl
    · obtain ⟨written, rest, hwritten⟩ := hnext token htoken
      exact ⟨rest, written, hwritten⟩
  · cases (Prod.mk.inj hrun).1
  · rename_i q token rest hfirst
    obtain ⟨he, rfl⟩ := Prod.mk.inj hrun
    obtain rfl := Except.error.inj he
    obtain ⟨written, -, rfl⟩ := hclauses.sound hfirst
    exact ⟨_, rfl, Or.inl ⟨rfl, List.cons_ne_nil _ _, written, rfl⟩⟩

/-- No two derivations are written with the same tokens. -/
theorem tokens_derivation_injective (required : Bool) :
    Function.Injective (tokens : Derivation required → List Token) := by
  intro written written' h
  have heq : tokens written ++ [] = tokens written' ++ [] := by rw [h]
  exact (reads_clauses required).unique heq (stops_nil _) (stops_nil _)

end SelectLang

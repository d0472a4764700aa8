import SelectLang.Proofs.Grammar.Derivation

/-!
# The tokens of a derivation

What holds of every token of a tree holds of every token of its parts.  `Every P t` says that it
holds in `t`; for each way to build trees one lemma takes it apart, down to single tokens.  Likewise
what is chosen among the tokens of a tree is chosen among those of its parts (`filterMap_chain` to
`filterMap_condition`).

Within a clause no token begins another clause or ends the statement (`inner_projection` to
`inner_ordering`).
-/

namespace SelectLang

open Phrase (tokens)

/-- Every token that the tree is written with has the property. -/
def Every {τ : Type} [Phrase τ] (P : Token → Prop) (t : τ) : Prop := ∀ token ∈ tokens t, P token

variable {P Q : Token → Prop} {τ σ : Type} [Phrase τ] [Phrase σ]

theorem Every.imp {t : τ} (h : Every P t) (hPQ : ∀ token, P token → Q token) : Every Q t :=
  fun token htoken => hPQ token (h token htoken)

/-! ## Sequences, options and repetitions -/

@[simp] theorem every_leaf {kind : Kind} (leaf : Leaf kind) : Every P leaf ↔ P leaf.val := by
  simp [Every]

@[simp] theorem every_pair (x : τ) (y : σ) : Every P (x, y) ↔ Every P x ∧ Every P y := by
  simp [Every, or_imp, forall_and]

@[simp] theorem every_list (parts : List τ) : Every P parts ↔ ∀ part ∈ parts, Every P part := by
  induction parts with
  | nil => simp [Every]
  | cons part parts ih =>
    rw [List.forall_mem_cons, ← ih]
    simp [Every, or_imp, forall_and]

@[simp] theorem every_none : Every P (none : Option τ) := by
  simp [Every]

@[simp] theorem every_some (x : τ) : Every P (some x) ↔ Every P x := Iff.rfl

@[simp] theorem every_chain {separator : Kind} (chain : Chain separator τ) :
    Every P chain ↔
      Every P chain.first ∧ ∀ other ∈ chain.others, P other.1.val ∧ Every P other.2 := by
  have hothers : Every P chain.others ↔
      ∀ other ∈ chain.others, P other.1.val ∧ Every P other.2 := by
    rw [every_list]
    simp
  rw [← hothers]
  simp [Every, or_imp, forall_and]

/-! ## Parts of statements -/

@[simp] theorem every_star (star : Leaf .star) :
    Every P (WrittenProjection.all star) ↔ P star.val := every_leaf star

@[simp] theorem every_columns (names : WrittenNames) :
    Every P (WrittenProjection.columns names) ↔ Every P names := Iff.rfl

@[simp] theorem every_operand (written : WrittenOperand) : Every P written ↔ P written.token := by
  change (∀ token ∈ [written.token], P token) ↔ _
  simp

@[simp] theorem every_comparison (written : WrittenComparison) :
    Every P written ↔
      P written.column.val ∧ P written.comparator.leaf.val ∧ P written.operand.token := by
  change (∀ token ∈ [written.column.val] ++ ([written.comparator.leaf.val] ++
    [written.operand.token]), P token) ↔ _
  simp

@[simp] theorem every_desc (leaf : Leaf (.keyword .desc)) :
    Every P (WrittenDirection.desc leaf) ↔ P leaf.val := every_leaf leaf

@[simp] theorem every_asc (leaf : Leaf (.keyword .asc)) :
    Every P (WrittenDirection.asc leaf) ↔ P leaf.val := every_leaf leaf

@[simp] theorem every_unwritten : Every P WrittenDirection.unwritten := nofun

@[simp] theorem every_sortKey (written : WrittenSortKey) :
    Every P written ↔ P written.column.val ∧ Every P written.direction := by
  change Every P (written.column, written.direction) ↔ _
  simp

@[simp] theorem every_groups (written : WrittenGroups) :
    Every P written ↔ P written.byWord.val ∧ Every P written.names ∧ Every P written.having := by
  change Every P (written.byWord, written.names, written.having) ↔ _
  simp

@[simp] theorem every_ordering (written : WrittenOrdering) :
    Every P written ↔ P written.byWord.val ∧ Every P written.keys := by
  change Every P (written.byWord, written.keys) ↔ _
  simp

theorem every_derivation {required : Bool} (written : Derivation required) :
    Every P written ↔ P written.select.val ∧ Every P written.projection ∧ P written.fromWord.val ∧
      Every P written.tables ∧ Every P written.filter ∧ Every P written.groups ∧
      Every P written.ordering ∧ Every P written.terminator.val := by
  change Every P (written.select, written.projection, written.fromWord, written.tables,
    written.filter, written.groups, written.ordering, written.terminator.val) ↔ _
  simp only [every_pair, every_leaf]

/-! ## Choosing among the tokens -/

section

variable {β : Type} {choose : Token → Option β}

/-- Where nothing is chosen from the separators, the parts of a chain are gone through in turn. -/
theorem filterMap_chain {separator : Kind}
    (hseparator : ∀ leaf : Leaf separator, choose leaf.val = none) (chain : Chain separator τ) :
    (tokens chain).filterMap choose =
      chain.parts.flatMap fun part => (tokens part).filterMap choose := by
  obtain ⟨first, others⟩ := chain
  rw [tokens_chain, List.filterMap_append, Chain.parts, List.flatMap_cons]
  congr 1
  induction others with
  | nil => rfl
  | cons other others ih =>
    obtain ⟨leaf, next⟩ := other
    rw [tokens_cons, tokens_pair, tokens_leaf, List.singleton_append, List.cons_append,
      List.filterMap_cons, hseparator, List.filterMap_append, ih, List.map_cons, List.flatMap_cons]

theorem filterMap_announced {keyword : Keyword}
    (hkeyword : ∀ leaf : Leaf (.keyword keyword), choose leaf.val = none)
    (part : Announced keyword τ) :
    (tokens part).filterMap choose =
      part.elim [] fun pair => (tokens pair.2).filterMap choose := by
  cases part with
  | none => rfl
  | some pair =>
    rw [tokens_some, tokens_pair, tokens_leaf, List.singleton_append, List.filterMap_cons, hkeyword]
    rfl

/-- What is chosen from a condition is what is chosen from its comparisons, from left to right. -/
theorem filterMap_condition {value : Comparison → List β}
    (hkeyword : ∀ {k : Keyword} (leaf : Leaf (.keyword k)), choose leaf.val = none)
    (h : ∀ written : WrittenComparison,
      (tokens written).filterMap choose = value written.comparison)
    (written : WrittenCondition) :
    (tokens written).filterMap choose =
      (WrittenCondition.condition written).comparisons.flatMap value := by
  have hconjunction : ∀ conjunction : WrittenConjunction, (tokens conjunction).filterMap choose =
      (WrittenConjunction.condition conjunction).comparisons.flatMap value := by
    intro conjunction
    rw [filterMap_chain hkeyword, WrittenConjunction.condition, Condition.comparisons_joined,
      List.flatMap_append, List.flatMap_assoc]
    simp [Chain.parts, Condition.comparisons, h, List.flatMap_map]
  rw [filterMap_chain hkeyword, WrittenCondition.condition, Condition.comparisons_joined,
    List.flatMap_append, List.flatMap_assoc]
  simp only [Chain.parts, List.flatMap_cons, List.flatMap_map, hconjunction]

end

/-! ## Inner tokens -/

theorem every_chain_of {separator : Kind} (hseparator : ∀ leaf : Leaf separator, P leaf.val)
    (h : ∀ t : τ, Every P t) (chain : Chain separator τ) : Every P chain :=
  (every_chain chain).2 ⟨h _, fun other _ => ⟨hseparator other.1, h other.2⟩⟩

theorem every_announced {keyword : Keyword}
    (hkeyword : ∀ leaf : Leaf (.keyword keyword), P leaf.val) (h : ∀ t : τ, Every P t)
    (part : Announced keyword τ) : Every P part := by
  cases part with
  | none => exact every_none
  | some pair => exact (every_pair _ _).2 ⟨(every_leaf _).2 (hkeyword pair.1), h pair.2⟩

/-- Tokens of the kind neither begin a clause nor end a statement. -/
def Kind.isInner : Kind → Bool
  | .keyword .select | .keyword .from | .keyword .where | .keyword .group | .keyword .order => false
  | .semicolon | .eof => false
  | _ => true

/-- The token neither begins a clause nor ends a statement. -/
def Token.IsInner (token : Token) : Prop := token.kind.isInner = true

theorem isInner_val {kind : Kind} (h : kind.isInner = true) (leaf : Leaf kind) :
    leaf.val.IsInner := by
  rwa [Token.IsInner, leaf.property]

theorem Token.IsInner.kind_ne {kind : Kind} (hkind : kind.isInner = false) (token : Token)
    (h : token.IsInner) : token.kind ≠ kind := by
  rintro rfl
  rw [Token.IsInner, hkind] at h
  cases h

theorem inner_name (leaf : Leaf .identifier) : Every Token.IsInner leaf :=
  (every_leaf leaf).2 (isInner_val rfl leaf)

theorem inner_names (names : WrittenNames) : Every Token.IsInner names :=
  every_chain_of (isInner_val rfl) inner_name names

theorem inner_projection (projection : WrittenProjection) : Every Token.IsInner projection := by
  cases projection with
  | all star => exact (every_star star).2 (isInner_val rfl star)
  | columns names => exact inner_names names

theorem inner_comparison (written : WrittenComparison) : Every Token.IsInner written := by
  refine (every_comparison written).2 ⟨isInner_val rfl _, isInner_val rfl _, ?_⟩
  cases written.operand with
  | column leaf => exact isInner_val rfl leaf
  | number leaf => exact isInner_val rfl leaf
  | string leaf => exact isInner_val rfl leaf

theorem inner_condition (condition : WrittenCondition) : Every Token.IsInner condition :=
  every_chain_of (isInner_val rfl) (every_chain_of (isInner_val rfl) inner_comparison) condition

theorem inner_groups (groups : WrittenGroups) : Every Token.IsInner groups :=
  (every_groups groups).2 ⟨isInner_val rfl _, inner_names _,
    every_announced (isInner_val rfl) inner_condition _⟩

theorem inner_sortKey (key : WrittenSortKey) : Every Token.IsInner key := by
  refine (every_sortKey key).2 ⟨isInner_val rfl _, ?_⟩
  cases key.direction with
  | desc leaf => exact (every_desc leaf).2 (isInner_val rfl leaf)
  | asc leaf => exact (every_asc leaf).2 (isInner_val rfl leaf)
  | unwritten => exact every_unwritten

theorem inner_ordering (ordering : WrittenOrdering) : Every Token.IsInner ordering :=
  (every_ordering ordering).2 ⟨isInner_val rfl _, every_chain_of (isInner_val rfl) inner_sortKey _⟩

end SelectLang

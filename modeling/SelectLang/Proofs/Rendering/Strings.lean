import Mathlib.Data.List.Basic
import SelectLang.Proofs.Rendering.Written

/-!
# The strings of a query

The contents of the strings that a query compares with, in the order in which they are written.
They are the texts of the string tokens of its derivation (`contents_tokens_spell`).
-/

namespace SelectLang

open Phrase (tokens)

/-- The content of a string. -/
def Operand.content? : Operand → Option String
  | .string content => some content
  | _ => none

/-- The contents of the strings in a condition, from left to right. -/
def Condition.strings (c : Condition) : List String :=
  c.comparisons.filterMap fun comparison => comparison.operand.content?

/-- The contents of the strings in the conditions on rows and on groups. -/
def Query.strings (q : Query) : List String :=
  q.filter.elim [] Condition.strings ++ q.having.elim [] Condition.strings

/-! ## String tokens -/

/-- The contents of the string tokens. -/
def contents (ts : List Token) : List String :=
  ts.filterMap fun token => if token.kind = .string then some token.text else none

@[simp] theorem contents_append (ts us : List Token) :
    contents (ts ++ us) = contents ts ++ contents us := List.filterMap_append

theorem mem_contents_iff {ts : List Token} {content : String} :
    content ∈ contents ts ↔ ∃ token ∈ ts, token.kind = .string ∧ token.text = content := by
  simp [contents]

theorem contents_leaf {kind : Kind} (h : kind ≠ .string) (leaf : Leaf kind) :
    contents [leaf.val] = [] := by
  have hkind : leaf.val.kind ≠ .string := by rwa [leaf.property]
  simp [contents, hkind]

theorem contents_keyword {k : Keyword} (leaf : Leaf (.keyword k)) : contents [leaf.val] = [] :=
  contents_leaf (by simp) leaf

theorem contents_announced {τ : Type} [Phrase τ] {keyword : Keyword} (part : Announced keyword τ) :
    contents (tokens part) = part.elim [] fun pair => contents (tokens pair.2) :=
  filterMap_announced (fun leaf => by simp [leaf.property]) part

theorem contents_names (names : WrittenNames) : contents (tokens names) = [] := by
  rw [contents, filterMap_chain fun leaf => by simp [leaf.property], List.flatMap_eq_nil_iff]
  intro name _
  exact contents_leaf (by simp) name

theorem contents_comparison (comparison : WrittenComparison) :
    contents (tokens comparison) = comparison.comparison.operand.content?.toList := by
  obtain ⟨column, ⟨op, leaf⟩, operand⟩ := comparison
  change contents ([column.val] ++ ([leaf.val] ++ [operand.token])) = _
  rw [contents_append, contents_append, contents_leaf (by simp), contents_leaf (by simp)]
  rcases operand with ⟨token, h⟩ | ⟨token, h⟩ | ⟨token, h⟩ <;>
    simp [contents, h, WrittenOperand.token, WrittenOperand.operand,
      WrittenComparison.comparison, Operand.content?]

theorem contents_condition (condition : WrittenCondition) :
    contents (tokens condition) = (WrittenCondition.condition condition).strings := by
  rw [Condition.strings, List.filterMap_eq_flatMap_toList, contents]
  apply filterMap_condition
  · intro k leaf
    simp [leaf.property]
  · intro comparison
    exact contents_comparison comparison

theorem contents_groups (groups : WrittenGroups) :
    contents (tokens groups) = groups.groups.2.elim [] Condition.strings := by
  obtain ⟨byWord, names, having⟩ := groups
  change contents (tokens byWord ++ (tokens names ++ tokens having)) = _
  rw [contents_append, contents_append, tokens_leaf, contents_leaf (by simp), contents_names,
    contents_announced]
  cases having with
  | none => rfl
  | some pair => exact contents_condition pair.2

theorem contents_ordering_spell (ordering : WrittenOrdering) :
    contents (tokens ordering.spell) = [] := by
  change contents (tokens ordering.byWord ++ tokens ordering.spell.keys) = _
  rw [contents_append, tokens_leaf, contents_leaf (by simp), List.nil_append, contents,
    filterMap_chain fun leaf => by simp [leaf.property], List.flatMap_eq_nil_iff]
  intro key hkey
  simp only [WrittenOrdering.spell, Chain.parts_map, List.mem_map] at hkey
  obtain ⟨⟨column, direction⟩, -, rfl⟩ := hkey
  change contents ([column.val] ++ tokens direction.spell) = _
  rw [contents_append, contents_leaf (by simp), List.nil_append]
  cases direction with
  | desc leaf => exact contents_leaf (by simp) leaf
  | asc leaf => exact contents_leaf (by simp) leaf
  | unwritten => rfl

/-- The strings of a query are the string tokens of its derivation. -/
theorem contents_tokens_spell {required : Bool} (derivation : Derivation required) :
    contents (tokens derivation.spell) = derivation.query.strings := by
  obtain ⟨select, projection, fromWord, tables, filter, groups, ordering, terminator⟩ := derivation
  change contents (tokens select ++ (tokens projection ++ (tokens fromWord ++ (tokens tables ++
    (tokens filter ++ (tokens groups ++
      (tokens (ordering.map fun ordering => (ordering.1, ordering.2.spell)) ++
        tokens terminator))))))) = _
  have hprojection : contents (tokens projection) = [] := by
    cases projection with
    | all star => exact contents_leaf (by simp) star
    | columns names => exact contents_names names
  have hterminator : contents (tokens terminator) = [] := by
    obtain ⟨- | leaf, h⟩ := terminator
    · rfl
    · exact contents_leaf (by simp) leaf
  have hordering :
      contents (tokens (ordering.map fun ordering => (ordering.1, ordering.2.spell))) = [] := by
    rw [contents_announced]
    cases ordering with
    | none => rfl
    | some pair => exact contents_ordering_spell pair.2
  simp only [contents_append, tokens_leaf, contents_keyword,
    contents_announced, contents_condition, contents_groups, contents_names, hprojection,
    hterminator, hordering, List.nil_append, List.append_nil]
  cases filter <;> cases groups <;> rfl

end SelectLang

import Mathlib.Data.List.Induction
import SelectLang.Query.Render

/-!
# How conditions are grouped

A condition is written without parentheses.  All that its text shows is its comparisons and the
connectives between them, from left to right: the sequence of the condition.  A reader makes a tree
of a sequence by parting it into groups at each OR, and by grouping from the left both the
comparisons of a group and the groups (`ofGroups`).

* `chain_eq_joined` — conditions that are joined as they are read, each to what there is, are grouped
  from the left;
* `leftGrouped_iff_exists_groups` — the trees that come about in this way are told by their shape;
* `sequence_regroup` — a condition that is taken apart and grouped anew keeps its sequence, and so
  its comparisons and its text;
* `regroup_eq_self_iff` — it comes out as it was exactly if it was grouped like that before.
-/

namespace SelectLang

namespace Condition

/-! ## Joining from the left -/

/-- Conditions joined by one connective and grouped from the left: the last one is joined to all
those before it. -/
def joined (op : Connective) (first : Condition) (others : List Condition) : Condition :=
  upTo others.reverse
where
  /-- The last of the conditions comes first here. -/
  upTo : List Condition → Condition
    | [] => first
    | last :: before => .node (upTo before) op last

theorem joined_concat (op : Connective) (first : Condition) (others : List Condition)
    (last : Condition) :
    joined op first (others ++ [last]) = .node (joined op first others) op last := by
  rw [joined, List.reverse_concat]
  rfl

/-- Joining each condition to what there is, from the first on, comes to the same. -/
theorem chain_eq_joined (op : Connective) (first : Condition) (others : List Condition) :
    chain op first others = joined op first others := by
  induction others using List.reverseRecOn with
  | nil => rfl
  | append_singleton others last ih =>
    rw [joined_concat, ← ih, chain, chain, List.foldl_append]
    rfl

theorem comparisons_joined (op : Connective) (first : Condition) (others : List Condition) :
    (joined op first others).comparisons =
      first.comparisons ++ others.flatMap Condition.comparisons := by
  induction others using List.reverseRecOn with
  | nil => exact (List.append_nil _).symm
  | append_singleton others last ih => simp [joined_concat, comparisons, ih]

/-! ## Trees that are grouped from the left -/

/-- No OR joins parts of the tree. -/
def OrFree : Condition → Prop
  | .leaf _ => True
  | .node left op right => op = .and ∧ left.OrFree ∧ right.OrFree

/-- On the right of an AND stands a comparison, and no OR on its left or on the right of another
OR. -/
def LeftGrouped : Condition → Prop
  | .leaf _ => True
  | .node left .and right => left.OrFree ∧ left.LeftGrouped ∧ ∃ c, right = .leaf c
  | .node left .or right => left.LeftGrouped ∧ right.OrFree ∧ right.LeftGrouped

/-- A comparison, and those that follow it after an AND. -/
abbrev Group := Comparison × List Comparison

/-- A group, and those that follow it after an OR. -/
abbrev Groups := Group × List Group

/-- The comparisons of a group joined by AND. -/
def ofGroup (group : Group) : Condition :=
  .joined .and (.leaf group.1) (group.2.map .leaf)

/-- Groups joined by OR. -/
def ofGroups (groups : Groups) : Condition :=
  .joined .or (ofGroup groups.1) (groups.2.map ofGroup)

theorem orFree_and_leftGrouped_ofGroup (group : Group) :
    (ofGroup group).OrFree ∧ (ofGroup group).LeftGrouped := by
  obtain ⟨first, others⟩ := group
  induction others using List.reverseRecOn with
  | nil => exact ⟨trivial, trivial⟩
  | append_singleton others last ih =>
    obtain ⟨hfree, hgrouped⟩ := ih
    rw [ofGroup] at hfree hgrouped ⊢
    rw [List.map_append, List.map_singleton, joined_concat]
    exact ⟨⟨rfl, hfree, trivial⟩, hfree, hgrouped, last, rfl⟩

theorem leftGrouped_ofGroups (groups : Groups) : (ofGroups groups).LeftGrouped := by
  obtain ⟨first, others⟩ := groups
  induction others using List.reverseRecOn with
  | nil => exact (orFree_and_leftGrouped_ofGroup first).2
  | append_singleton others last ih =>
    rw [ofGroups] at ih ⊢
    rw [List.map_append, List.map_singleton, joined_concat]
    exact ⟨ih, orFree_and_leftGrouped_ofGroup last⟩

/-- A tree without OR is grouped from the left only if it is one group. -/
theorem exists_eq_ofGroup {c : Condition} (hfree : c.OrFree) (h : c.LeftGrouped) :
    ∃ group, c = ofGroup group := by
  induction c with
  | leaf c => exact ⟨(c, []), rfl⟩
  | node left op right ihleft _ =>
    obtain ⟨rfl, -, -⟩ := hfree
    obtain ⟨hleftfree, hleft, last, rfl⟩ := h
    obtain ⟨⟨first, others⟩, rfl⟩ := ihleft hleftfree hleft
    refine ⟨(first, others ++ [last]), ?_⟩
    rw [ofGroup, ofGroup, List.map_append, List.map_singleton, joined_concat]

theorem exists_eq_ofGroups {c : Condition} (h : c.LeftGrouped) :
    ∃ groups, c = ofGroups groups := by
  induction c with
  | leaf c => exact ⟨((c, []), []), rfl⟩
  | node left op right ihleft _ =>
    cases op with
    | and =>
      obtain ⟨hfree, hleft, hright⟩ := h
      have htree : (Condition.node left .and right).OrFree := by
        obtain ⟨last, rfl⟩ := hright
        exact ⟨rfl, hfree, trivial⟩
      obtain ⟨group, hgroup⟩ := exists_eq_ofGroup htree ⟨hfree, hleft, hright⟩
      exact ⟨(group, []), hgroup⟩
    | or =>
      obtain ⟨hleft, hrightfree, hright⟩ := h
      obtain ⟨⟨first, others⟩, rfl⟩ := ihleft hleft
      obtain ⟨last, rfl⟩ := exists_eq_ofGroup hrightfree hright
      refine ⟨(first, others ++ [last]), ?_⟩
      rw [ofGroups, ofGroups, List.map_append, List.map_singleton, joined_concat]

/-- The trees that are grouped from the left are those of groups joined by OR. -/
theorem leftGrouped_iff_exists_groups {c : Condition} :
    c.LeftGrouped ↔ ∃ groups, c = ofGroups groups := by
  constructor
  · exact exists_eq_ofGroups
  · rintro ⟨groups, rfl⟩
    exact leftGrouped_ofGroups groups

/-! ## Sequences -/

/-- A comparison, and those after it with the connective before each. -/
abbrev Sequence := Comparison × List (Connective × Comparison)

/-- The comparisons and the connectives between them, from left to right. -/
def sequence : Condition → Sequence
  | .leaf c => (c, [])
  | .node left op right =>
      (left.sequence.1, left.sequence.2 ++ (op, right.sequence.1) :: right.sequence.2)

theorem comparisons_eq_sequence (c : Condition) :
    c.comparisons = c.sequence.1 :: c.sequence.2.map (·.2) := by
  induction c with
  | leaf c => rfl
  | node left op right ihleft ihright => simp [comparisons, sequence, ihleft, ihright]

theorem toList_render_eq_sequence (c : Condition) :
    c.render.toList = c.sequence.1.render.toList ++ c.sequence.2.flatMap fun next =>
      ' ' :: next.1.render.toList ++ ' ' :: next.2.render.toList := by
  induction c with
  | leaf c => simp [render, sequence]
  | node left op right ihleft ihright => simp [render, sequence, ihleft, ihright]

/-- The text of a condition depends on its sequence alone. -/
theorem render_eq_of_sequence_eq {c c' : Condition} (h : c.sequence = c'.sequence) :
    c.render = c'.render := by
  rw [← String.toList_inj, toList_render_eq_sequence, toList_render_eq_sequence, h]

/-! ## Grouping a sequence -/

/-- The groups of a sequence, which each OR parts. -/
def split (first : Comparison) : List (Connective × Comparison) → Groups
  | [] => ((first, []), [])
  | (.and, next) :: rest =>
      let (group, others) := split next rest
      ((first, group.1 :: group.2), others)
  | (.or, next) :: rest =>
      let (group, others) := split next rest
      ((first, []), group :: others)

/-- The condition with its sequence grouped from the left, AND before OR. -/
def regroup (c : Condition) : Condition := ofGroups (split c.sequence.1 c.sequence.2)

/-- What stands after the first comparison of a group. -/
def Group.tail (group : Group) : List (Connective × Comparison) := group.2.map (Connective.and, ·)

/-- What stands after the first group. -/
def tails (others : List Group) : List (Connective × Comparison) :=
  others.flatMap fun group => (.or, group.1) :: Group.tail group

theorem sequence_joined (op : Connective) (first : Condition) (others : List Condition) :
    (joined op first others).sequence =
      (first.sequence.1, first.sequence.2 ++ others.flatMap fun other =>
        (op, other.sequence.1) :: other.sequence.2) := by
  induction others using List.reverseRecOn with
  | nil => exact Prod.ext rfl (List.append_nil _).symm
  | append_singleton others last ih => rw [joined_concat, sequence, ih]; simp

theorem sequence_ofGroup (group : Group) :
    (ofGroup group).sequence = (group.1, Group.tail group) := by
  rw [ofGroup, sequence_joined, List.flatMap_map, Group.tail, List.map_eq_flatMap]
  rfl

theorem sequence_ofGroups (groups : Groups) :
    (ofGroups groups).sequence = (groups.1.1, Group.tail groups.1 ++ tails groups.2) := by
  rw [ofGroups, sequence_joined, List.flatMap_map]
  simp only [sequence_ofGroup]
  rfl

/-- Parting a sequence into groups loses nothing. -/
theorem sequence_ofGroups_split (first : Comparison) (rest : List (Connective × Comparison)) :
    (ofGroups (split first rest)).sequence = (first, rest) := by
  rw [sequence_ofGroups]
  fun_induction split first rest with
  | case1 first => rfl
  | case2 first next rest group others h ih =>
    rw [h] at ih
    obtain ⟨rfl, hrest⟩ := Prod.mk.inj ih
    rw [← hrest]
    rfl
  | case3 first next rest group others h ih =>
    rw [h] at ih
    obtain ⟨rfl, hrest⟩ := Prod.mk.inj ih
    rw [← hrest]
    rfl

/-- A sequence is parted into the groups that it was put together from. -/
theorem split_append_tails (groups : Groups) :
    split groups.1.1 (Group.tail groups.1 ++ tails groups.2) = groups := by
  obtain ⟨⟨first, rest⟩, others⟩ := groups
  induction others generalizing first rest with
  | nil =>
    induction rest generalizing first with
    | nil => rfl
    | cons next rest ih =>
      have hnext := ih next
      simp only [Group.tail, List.map_cons, List.cons_append, split] at hnext ⊢
      rw [hnext]
  | cons group others ihothers =>
    induction rest generalizing first with
    | nil =>
      have hgroup := ihothers group.1 group.2
      simp only [Group.tail, tails, List.map_nil, List.nil_append, List.flatMap_cons,
        List.cons_append, split] at hgroup ⊢
      rw [hgroup]
    | cons next rest ih =>
      have hnext := ih next
      simp only [Group.tail, List.map_cons, List.cons_append, split] at hnext ⊢
      rw [hnext]

/-! ## Grouping a condition anew -/

theorem leftGrouped_regroup (c : Condition) : c.regroup.LeftGrouped :=
  leftGrouped_ofGroups _

/-- A condition that is grouped anew keeps its sequence. -/
@[simp] theorem sequence_regroup (c : Condition) : c.regroup.sequence = c.sequence :=
  sequence_ofGroups_split _ _

@[simp] theorem comparisons_regroup (c : Condition) : c.regroup.comparisons = c.comparisons := by
  rw [comparisons_eq_sequence, sequence_regroup, ← comparisons_eq_sequence]

@[simp] theorem render_regroup (c : Condition) : c.regroup.render = c.render :=
  render_eq_of_sequence_eq c.sequence_regroup

/-- Grouping anew changes just the conditions that are not grouped from the left. -/
theorem regroup_eq_self_iff {c : Condition} : c.regroup = c ↔ c.LeftGrouped := by
  constructor
  · intro h
    rw [← h]
    exact c.leftGrouped_regroup
  · intro h
    obtain ⟨groups, rfl⟩ := leftGrouped_iff_exists_groups.1 h
    rw [regroup, sequence_ofGroups, split_append_tails]

end Condition

end SelectLang

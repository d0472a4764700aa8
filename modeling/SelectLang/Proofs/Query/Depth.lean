import Mathlib.Data.Finset.Lattice.Fold
import Mathlib.Data.List.GetD
import Mathlib.Order.Interval.Finset.Nat
import Mathlib.Order.Lattice.Nat
import SelectLang.Proofs.Query.Grouping

/-!
# The depth of conditions

A condition that is grouped from the left leans to the left: each further comparison of a group, and
each further group, puts one more node on top of all that stands before it.  So the sizes of its
groups alone tell how deep it is (`depth_ofGroups`).  The closed form `groupedDepth` follows the
tree as it grows: one group is as deep as it has comparisons, and a group that comes last adds one
to the deeper of the two sides (`groupedDepth_concat`).
-/

namespace SelectLang

namespace Condition

/-- The depth of a condition whose groups have these numbers of comparisons.  The first group lies
below an OR for each group after it, and the group at position `i` from the second on below its own
OR too. -/
def groupedDepth (sizes : List Nat) : Nat :=
  let n := sizes.length
  let m := fun i => sizes.getD (i - 1) 0
  max (m 1 + n - 1) ((Finset.Icc 2 n).sup fun i => m i + n - i + 1)

/-- The numbers of comparisons in the groups. -/
def Groups.sizes (groups : Groups) : List Nat :=
  (groups.1 :: groups.2).map fun group => group.2.length + 1

theorem groupedDepth_singleton (size : Nat) : groupedDepth [size] = size := by
  simp [groupedDepth]

theorem groupedDepth_le_iff {sizes : List Nat} {bound : Nat} :
    groupedDepth sizes ≤ bound ↔ sizes.getD 0 0 + sizes.length - 1 ≤ bound ∧
      ∀ i, 2 ≤ i → i ≤ sizes.length → sizes.getD (i - 1) 0 + sizes.length - i + 1 ≤ bound := by
  simp [groupedDepth, Finset.sup_le_iff]

/-- A last group hangs below the root, beside all others. -/
theorem groupedDepth_concat {sizes : List Nat} (h : sizes ≠ []) (last : Nat) :
    groupedDepth (sizes ++ [last]) = 1 + max (groupedDepth sizes) last := by
  have hpos : 0 < sizes.length := List.length_pos_iff.2 h
  have hbefore : ∀ i, i < sizes.length → (sizes ++ [last]).getD i 0 = sizes.getD i 0 :=
    fun i hi => List.getD_append sizes [last] 0 i hi
  have hlast : (sizes ++ [last]).getD (sizes.length + 1 - 1) 0 = last := by
    simp
  -- both sides have the same upper bounds
  refine eq_of_forall_ge_iff fun bound => ?_
  rw [groupedDepth_le_iff, List.length_append, List.length_singleton, hbefore 0 hpos]
  cases bound with
  | zero => omega
  | succ bound =>
    have hsplit : 1 + max (groupedDepth sizes) last ≤ bound + 1 ↔
        groupedDepth sizes ≤ bound ∧ last ≤ bound := by omega
    rw [hsplit, groupedDepth_le_iff]
    constructor
    · rintro ⟨hfirst, hothers⟩
      refine ⟨⟨by omega, fun i hi hle => ?_⟩, ?_⟩
      · have hi' := hothers i hi (by omega)
        rw [hbefore (i - 1) (by omega)] at hi'
        omega
      · have hend := hothers (sizes.length + 1) (by omega) le_rfl
        rw [hlast] at hend
        omega
    · rintro ⟨⟨hfirst, hothers⟩, hend⟩
      refine ⟨by omega, fun i hi hle => ?_⟩
      by_cases hi' : i ≤ sizes.length
      · have hbound := hothers i hi hi'
        rw [hbefore (i - 1) (by omega)]
        omega
      · obtain rfl : i = sizes.length + 1 := by omega
        rw [hlast]
        omega

theorem depth_ofGroup (group : Group) : (ofGroup group).depth = group.2.length + 1 := by
  obtain ⟨first, others⟩ := group
  unfold ofGroup
  induction others using List.reverseRecOn with
  | nil => rfl
  | append_singleton others last ih =>
    rw [List.map_append, List.map_singleton, joined_concat, depth, ih]
    simp [depth, Nat.add_comm]

/-- The sizes of the groups tell how deep the condition is. -/
theorem depth_ofGroups (groups : Groups) : (ofGroups groups).depth = groupedDepth groups.sizes := by
  obtain ⟨first, others⟩ := groups
  induction others using List.reverseRecOn with
  | nil =>
    show (ofGroup first).depth = groupedDepth [first.2.length + 1]
    rw [depth_ofGroup, groupedDepth_singleton]
  | append_singleton others last ih =>
    have hsizes : Groups.sizes (first, others ++ [last]) =
        Groups.sizes (first, others) ++ [last.2.length + 1] := by
      simp [Groups.sizes]
    have htree : ofGroups (first, others ++ [last]) =
        .node (ofGroups (first, others)) .or (ofGroup last) := by
      simp [ofGroups, joined_concat]
    rw [hsizes, groupedDepth_concat (by simp [Groups.sizes]), htree, depth, ih, depth_ofGroup]

end Condition

end SelectLang

/-!
# Sets of characters as ascending ranges

A character property is given by the closed ranges of code points that have it, in ascending order.
`Ascending.mem_iff` says that stopping at the first range above the character loses nothing.
-/

namespace SelectLang.Text

/-- A closed range of code points, written `(first, last)`. -/
abbrev Range := Nat × Nat

/-- Is `n` in one of the ranges?  The search ends at the first range that begins above `n`. -/
def inRanges (n : Nat) : List Range → Bool
  | [] => false
  | (first, last) :: rest =>
      if n < first then false else decide (n ≤ last) || inRanges n rest

/-- Every range begins above `floor` and above the end of the one before it. -/
def ascendingFrom (floor : Nat) : List Range → Bool
  | [] => true
  | (first, last) :: rest =>
      decide (floor ≤ first) && decide (first ≤ last) && ascendingFrom (last + 1) rest

/-- The ranges are disjoint, in order, and none is empty. -/
def Ascending (ranges : List Range) : Prop := ascendingFrom 0 ranges = true

instance (ranges : List Range) : Decidable (Ascending ranges) :=
  inferInstanceAs (Decidable (_ = true))

theorem le_of_mem_of_ascendingFrom {ranges : List Range} {floor : Nat} {r : Range}
    (h : ascendingFrom floor ranges = true) (hr : r ∈ ranges) : floor ≤ r.1 := by
  induction ranges generalizing floor with
  | nil => cases hr
  | cons q rest ih =>
    simp only [ascendingFrom, Bool.and_eq_true, decide_eq_true_eq] at h
    rcases List.mem_cons.1 hr with rfl | hr
    · exact h.1.1
    · have := ih h.2 hr
      omega

theorem inRanges_eq_true_iff {ranges : List Range} {floor n : Nat}
    (h : ascendingFrom floor ranges = true) :
    inRanges n ranges = true ↔ ∃ r ∈ ranges, r.1 ≤ n ∧ n ≤ r.2 := by
  induction ranges generalizing floor with
  | nil => simp [inRanges]
  | cons q rest ih =>
    simp only [ascendingFrom, Bool.and_eq_true, decide_eq_true_eq] at h
    rw [inRanges]
    split
    · rename_i hlt
      simp only [Bool.false_eq_true, false_iff, not_exists, not_and, Nat.not_le]
      intro r hr hle
      rcases List.mem_cons.1 hr with rfl | hr
      · omega
      · have := le_of_mem_of_ascendingFrom h.2 hr
        omega
    · rename_i hge
      rw [Bool.or_eq_true, decide_eq_true_eq, ih h.2]
      constructor
      · rintro (hle | ⟨r, hr, hn⟩)
        · exact ⟨q, List.mem_cons_self, by omega, hle⟩
        · exact ⟨r, List.mem_cons_of_mem _ hr, hn⟩
      · rintro ⟨r, hr, hn⟩
        rcases List.mem_cons.1 hr with rfl | hr
        · exact Or.inl hn.2
        · exact Or.inr ⟨r, hr, hn⟩

/-- On ascending ranges the search finds `n` exactly when some range holds it. -/
theorem Ascending.mem_iff {ranges : List Range} (h : Ascending ranges) (n : Nat) :
    inRanges n ranges = true ↔ ∃ r ∈ ranges, r.1 ≤ n ∧ n ≤ r.2 :=
  inRanges_eq_true_iff h

end SelectLang.Text

import SelectLang.Proofs.Text.Entries
import SelectLang.Query.Outline

/-!
# The lines of a drawn condition

A node of a condition is found at an address, the way to it from the root.  A drawn condition has
one line for each node, in the order of the addresses, and the line is indented by the length of its
address (`drawnAs_nodes`).  The lines tell the condition apart from every other that has the same
comparisons (`outline_append_injective`).
-/

namespace SelectLang

namespace Condition

/-! ## Nodes and addresses -/

/-- The way from the root of a condition: at each step to the left, or, where it says `true`, to the
right.  In the order of lists an address stands before those that go on from it, and the left before
the right. -/
abbrev Address := List Bool

/-- The part of the condition whose root is at an address. -/
def part? : Condition → Address → Option Condition
  | c, [] => some c
  | .leaf _, _ :: _ => none
  | .node left _ _, false :: address => left.part? address
  | .node _ _ right, true :: address => right.part? address

/-- An address in a condition, and the part whose root is there. -/
structure Node where
  address : Address
  part : Condition
  deriving DecidableEq, Repr

/-- The node where the condition is one side of another. -/
def Node.below (side : Bool) (node : Node) : Node := { node with address := side :: node.address }

/-- The nodes of the condition: the root, then those on the left, then those on the right. -/
def nodes : Condition → List Node
  | .leaf c => [⟨[], .leaf c⟩]
  | .node left op right =>
      ⟨[], .node left op right⟩ ::
        (left.nodes.map (Node.below false) ++ right.nodes.map (Node.below true))

theorem mem_map_below {ns : List Node} {side side' : Bool} {address : Address} {part : Condition} :
    ⟨side :: address, part⟩ ∈ ns.map (Node.below side') ↔ side' = side ∧ ⟨address, part⟩ ∈ ns := by
  simp only [List.mem_map, Node.below, Node.mk.injEq, List.cons.injEq]
  constructor
  · rintro ⟨node, hnode, ⟨hside, rfl⟩, rfl⟩
    exact ⟨hside, hnode⟩
  · rintro ⟨hside, hnode⟩
    exact ⟨_, hnode, ⟨hside, rfl⟩, rfl⟩

/-- There is one node for each address of the condition. -/
theorem mem_nodes_iff {c : Condition} {address : Address} {part : Condition} :
    ⟨address, part⟩ ∈ c.nodes ↔ c.part? address = some part := by
  induction c generalizing address with
  | leaf c => cases address <;> simp [nodes, part?, eq_comm]
  | node left op right ihleft ihright =>
    rcases address with _ | ⟨_ | _, address⟩
    · simp [nodes, part?, Node.below, eq_comm]
    · simp [nodes, part?, mem_map_below, ihleft]
    · simp [nodes, part?, mem_map_below, ihright]

theorem pairwise_nodes (c : Condition) : c.nodes.Pairwise fun x y => x.address < y.address := by
  induction c with
  | leaf c => exact List.pairwise_singleton _ _
  | node left op right ihleft ihright =>
    have hbelow : ∀ (side : Bool) {ns : List Node},
        ns.Pairwise (fun x y => x.address < y.address) →
          (ns.map (Node.below side)).Pairwise fun x y => x.address < y.address := by
      intro side ns h
      simpa [List.pairwise_map, Node.below, List.cons_lt_cons_iff] using h
    have hroot : ∀ (side : Bool) (ns : List Node), ∀ node ∈ ns.map (Node.below side),
        ([] : Address) < node.address := by
      simp [Node.below]
    have hsides : ∀ x ∈ left.nodes.map (Node.below false), ∀ y ∈ right.nodes.map (Node.below true),
        x.address < y.address := by
      have hlt : false < true := by decide
      simp [Node.below, List.cons_lt_cons_iff, hlt]
    refine List.pairwise_cons.2 ⟨?_, ?_⟩
    · exact List.forall_mem_append.2 ⟨hroot _ _, hroot _ _⟩
    · exact List.pairwise_append.2 ⟨hbelow _ ihleft, hbelow _ ihright, hsides⟩

/-! ## Leaves and height -/

/-- The comparison, if that is all there is. -/
def comparison? : Condition → Option Comparison
  | .leaf c => some c
  | .node _ _ _ => none

/-- A condition has one connective less than comparisons. -/
theorem length_nodes_add_one (c : Condition) : c.nodes.length + 1 = 2 * c.comparisons.length := by
  induction c with
  | leaf c => rfl
  | node left op right ihleft ihright =>
    simp only [nodes, comparisons, List.length_cons, List.length_append, List.length_map]
    omega

theorem filterMap_comparison_nodes (c : Condition) :
    c.nodes.filterMap (fun node => node.part.comparison?) = c.comparisons := by
  induction c with
  | leaf c => rfl
  | node left op right ihleft ihright =>
    simp only [nodes, comparisons, comparison?, List.filterMap_cons, List.filterMap_append,
      List.filterMap_map]
    exact congrArg₂ (· ++ ·) ihleft ihright

theorem length_lt_depth {c part : Condition} {address : Address} (h : c.part? address = some part) :
    address.length < c.depth := by
  induction c generalizing address with
  | leaf c =>
    cases address with
    | nil => exact Nat.one_pos
    | cons side address => cases h
  | node left op right ihleft ihright =>
    rw [depth]
    rcases address with _ | ⟨_ | _, address⟩
    · exact Nat.lt_add_right _ Nat.one_pos
    · have hleft := ihleft h
      rw [List.length_cons]
      omega
    · have hright := ihright h
      rw [List.length_cons]
      omega

theorem exists_deepest (c : Condition) :
    ∃ address part, c.part? address = some part ∧ address.length + 1 = c.depth := by
  induction c with
  | leaf c => exact ⟨[], _, rfl, rfl⟩
  | node left op right ihleft ihright =>
    rw [depth]
    rcases Nat.le_total left.depth right.depth with hle | hle
    · obtain ⟨address, part, hpart, hlength⟩ := ihright
      refine ⟨true :: address, part, hpart, ?_⟩
      rw [List.length_cons, hlength, Nat.max_eq_right hle, Nat.add_comm]
    · obtain ⟨address, part, hpart, hlength⟩ := ihleft
      refine ⟨false :: address, part, hpart, ?_⟩
      rw [List.length_cons, hlength, Nat.max_eq_left hle, Nat.add_comm]

/-- The longest address takes as many steps as the depth counts nodes after the root. -/
theorem max?_length_nodes (c : Condition) :
    (c.nodes.map fun node => node.address.length).max? = some (c.depth - 1) := by
  rw [List.max?_eq_some_iff]
  constructor
  · obtain ⟨address, part, hpart, hlength⟩ := c.exists_deepest
    exact List.mem_map.2 ⟨⟨address, part⟩, mem_nodes_iff.2 hpart, by rw [← hlength]; rfl⟩
  · rw [List.forall_mem_map]
    rintro ⟨address, part⟩ hnode
    exact Nat.le_sub_one_of_lt (length_lt_depth (mem_nodes_iff.1 hnode))

/-! ## Lines -/

/-- What stands at the root: the comparison or the connective. -/
def label : Condition → String
  | .leaf c => c.render
  | .node _ op _ => op.render

/-- The line of the node where the condition is drawn at some depth. -/
def Node.line (depth : Nat) (node : Node) : String :=
  indentation (depth + node.address.length) ++ node.part.label

theorem outline_eq_map_nodes (c : Condition) (depth : Nat) :
    c.outline depth = c.nodes.map (Node.line depth) := by
  have hbelow : ∀ (side : Bool) (depth : Nat),
      Node.line depth ∘ Node.below side = Node.line (depth + 1) := by
    intro side depth
    funext node
    simp [Node.line, Node.below, Nat.add_assoc, Nat.add_comm 1]
  induction c generalizing depth with
  | leaf c => rfl
  | node left op right ihleft ihright =>
    rw [outline, nodes, List.map_cons, List.map_append, List.map_map, List.map_map, hbelow, hbelow,
      ihleft, ihright]
    rfl

theorem newline_notMem_render (op : Connective) : '\n' ∉ op.render.toList := by
  cases op <;> decide

theorem newline_notMem_outline {c : Condition}
    (h : ∀ comparison ∈ c.comparisons, '\n' ∉ comparison.render.toList) (depth : Nat) :
    ∀ line ∈ c.outline depth, '\n' ∉ line.toList := by
  have hindentation : ∀ depth, '\n' ∉ (indentation depth).toList := by
    simp [indentation, List.mem_replicate]
  induction c generalizing depth with
  | leaf c =>
    have hc := h c (List.mem_singleton_self c)
    simpa [outline, hindentation] using hc
  | node left op right ihleft ihright =>
    obtain ⟨hleft, hright⟩ := List.forall_mem_append.1 h
    refine List.forall_mem_cons.2 ⟨?_, List.forall_mem_append.2
      ⟨ihleft hleft (depth + 1), ihright hright (depth + 1)⟩⟩
    simp [hindentation, newline_notMem_render]

theorem splitOn_draw {c : Condition}
    (h : ∀ comparison ∈ c.comparisons, '\n' ∉ comparison.render.toList) (depth : Nat) :
    (c.draw depth).toList.splitOn '\n' = (c.outline depth).map String.toList ++ [[]] := by
  refine Text.splitOnP_join (by decide) fun line hline d hd => ?_
  rw [beq_eq_false_iff_ne]
  rintro rfl
  exact newline_notMem_outline h depth line hline hd

/-- There is a space in a comparison, but none in a connective. -/
theorem render_comparison_ne (c : Comparison) (op : Connective) : c.render ≠ op.render := by
  intro h
  have hspace : ' ' ∈ c.render.toList := by simp [Comparison.render]
  rw [h] at hspace
  revert hspace
  cases op <;> decide

/-- Of outlines at one depth, the lines and the comparisons tell which condition comes first. -/
theorem outline_append_injective {c c' : Condition} {depth : Nat} {lines lines' : List String}
    {others others' : List Comparison}
    (hlines : c.outline depth ++ lines = c'.outline depth ++ lines')
    (hcomparisons : c.comparisons ++ others = c'.comparisons ++ others') :
    c = c' ∧ lines = lines' ∧ others = others' := by
  induction c generalizing c' depth lines lines' others others' with
  | leaf c =>
    cases c' with
    | leaf c' =>
      obtain ⟨rfl, hothers⟩ := List.cons.inj hcomparisons
      exact ⟨rfl, (List.cons.inj hlines).2, hothers⟩
    | node left' op' right' =>
      have hhead := (String.append_right_inj _).1 (List.cons.inj hlines).1
      exact absurd hhead (render_comparison_ne c op')
  | node left op right ihleft ihright =>
    cases c' with
    | leaf c' =>
      have hhead := (String.append_right_inj _).1 (List.cons.inj hlines).1
      exact absurd hhead.symm (render_comparison_ne c' op)
    | node left' op' right' =>
      rw [outline, outline, List.cons_append, List.cons_append] at hlines
      obtain ⟨hhead, htail⟩ := List.cons.inj hlines
      obtain rfl : op = op' := by
        have hop := (String.append_right_inj _).1 hhead
        revert hop
        cases op <;> cases op' <;> decide
      rw [List.append_assoc, List.append_assoc] at htail
      rw [comparisons, comparisons, List.append_assoc, List.append_assoc] at hcomparisons
      obtain ⟨rfl, htail, hcomparisons⟩ := ihleft htail hcomparisons
      obtain ⟨rfl, hrest⟩ := ihright htail hcomparisons
      exact ⟨rfl, hrest⟩

/-! ## Drawn conditions -/

/-- The drawn condition consists of one line for each of the nodes, and these are the nodes of the
condition in the order of their addresses. -/
structure DrawnAs (c : Condition) (depth : Nat) (ns : List Node) : Prop where
  lines : (c.draw depth).toList.splitOn '\n' =
    ns.map (fun node => (node.line depth).toList) ++ [[]]
  complete : ∀ address part, ⟨address, part⟩ ∈ ns ↔ c.part? address = some part
  preorder : ns.Pairwise fun x y => x.address < y.address

/-- A condition none of whose comparisons shows a newline is drawn as its nodes in order, one to a
line.  They are one less than twice as many as its comparisons, which are the leaves among them in
order; the longest address has one step less than the condition is deep; and no other condition with
these comparisons is drawn in the same way. -/
theorem drawnAs_nodes {c : Condition}
    (h : ∀ comparison ∈ c.comparisons, '\n' ∉ comparison.render.toList) (depth : Nat) :
    c.DrawnAs depth c.nodes ∧ c.nodes.length = 2 * c.comparisons.length - 1 ∧
      c.nodes.filterMap (fun node => node.part.comparison?) = c.comparisons ∧
      (c.nodes.map fun node => node.address.length).max? = some (c.depth - 1) ∧
      ∀ c' : Condition, c'.draw depth = c.draw depth → c'.comparisons = c.comparisons → c' = c := by
  have hlines : (c.draw depth).toList.splitOn '\n' =
      c.nodes.map (fun node => (node.line depth).toList) ++ [[]] := by
    rw [splitOn_draw h, outline_eq_map_nodes, List.map_map]
    rfl
  refine ⟨⟨hlines, fun _ _ => mem_nodes_iff, c.pairwise_nodes⟩, ?_, c.filterMap_comparison_nodes,
    c.max?_length_nodes, ?_⟩
  · have hlength := c.length_nodes_add_one
    omega
  · intro c' hdraw hcomparisons
    have hsplit := splitOn_draw (hcomparisons ▸ h) depth
    rw [hdraw, splitOn_draw h] at hsplit
    have houtline : c'.outline depth = c.outline depth := by
      have hmap := List.append_cancel_right hsplit
      exact (List.map_injective_iff.2 (fun _ _ => String.toList_inj.1) hmap).symm
    have hinjective := @outline_append_injective c' c depth [] [] [] []
    simp only [List.append_nil] at hinjective
    exact (hinjective houtline hcomparisons).1

/-- A string may read like a connective on a line of its own, if it only holds no newline. -/
theorem drawnAs_or_below_and :
    let c : Condition :=
      .node (.node (.leaf ⟨"a", .lt, .number "1"⟩) .or (.leaf ⟨"b", .eq, .string "\r  AND"⟩)) .and
        (.leaf ⟨"a", .ne, .column "c"⟩)
    (∀ comparison ∈ c.comparisons, '\n' ∉ comparison.render.toList) ∧
      c.draw 1 = "  AND\n    OR\n      a < 1\n      b = '\r  AND'\n    a <> c\n" ∧
      c.DrawnAs 1 c.nodes ∧ c.nodes.length = 5 ∧
      (c.nodes.map fun node => node.address.length).max? = some 2 := by
  intro c
  have hnone : ∀ comparison ∈ c.comparisons, '\n' ∉ comparison.render.toList := by decide
  obtain ⟨hdrawn, hlength, -, hmax, -⟩ := drawnAs_nodes hnone 1
  exact ⟨hnone, by decide +kernel, hdrawn, hlength, hmax⟩

end Condition

end SelectLang

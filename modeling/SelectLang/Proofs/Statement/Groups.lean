import Mathlib.Algebra.GroupWithZero.Nat
import SelectLang.Proofs.Query.Depth
import SelectLang.Proofs.Statement.Image

/-!
# What the tokens of a condition tell of its tree

The tokens of a condition are parted into groups at each OR, and a group into comparisons at each
AND.  These parts are the comparisons of the parsed condition, in order, and the sizes of the groups
tell how deep it is (`measured_condition`).  So it is for both conditions of a parsed statement
(`measured_of_parse`).
-/

namespace SelectLang

open Phrase (tokens)

/-! ## Parting tokens at a keyword -/

/-- The token is the keyword. -/
def Token.isKeyword (k : Keyword) (token : Token) : Bool := token.kind = .keyword k

/-- The groups that each OR parts, and in each of them the parts between AND and AND. -/
def groupsOf (ts : List Token) : List (List (List Token)) :=
  (ts.splitOnP (Token.isKeyword .or)).map (List.splitOnP (Token.isKeyword .and))

theorem isKeyword_val (k : Keyword) (leaf : Leaf (.keyword k)) :
    leaf.val.isKeyword k = true := by
  simp [Token.isKeyword, leaf.property]

theorem isKeyword_val_of_ne {k : Keyword} {kind : Kind} (h : kind ≠ .keyword k)
    (leaf : Leaf kind) : leaf.val.isKeyword k = false := by
  simp [Token.isKeyword, leaf.property, h]

/-- A chain is parted at its separators, if they stand nowhere else in it. -/
theorem splitOnP_chain {τ : Type} [Phrase τ] {k : Keyword} (chain : Chain (.keyword k) τ)
    (h : ∀ part : τ, Every (fun token => token.isKeyword k = false) part) :
    (tokens chain).splitOnP (Token.isKeyword k) = chain.parts.map tokens := by
  obtain ⟨first, others⟩ := chain
  induction others generalizing first with
  | nil =>
    simp only [tokens_chain, tokens_nil, List.append_nil]
    exact List.splitOnP_eq_singleton (h first)
  | cons other others ih =>
    obtain ⟨leaf, next⟩ := other
    have htokens : tokens (Chain.mk first ((leaf, next) :: others)) =
        tokens first ++ leaf.val :: tokens (Chain.mk next others) := by
      simp
    rw [htokens, List.splitOnP_append_cons _ _ (isKeyword_val k leaf), ih next,
      List.splitOnP_eq_singleton (h first)]
    rfl

theorem every_comparison_isKeyword (k : Keyword) (written : WrittenComparison) :
    Every (fun token => token.isKeyword k = false) written := by
  rw [every_comparison]
  refine ⟨isKeyword_val_of_ne (by simp) written.column,
    isKeyword_val_of_ne (by simp) written.comparator.leaf, ?_⟩
  cases written.operand with
  | column leaf => exact isKeyword_val_of_ne (by simp) leaf
  | number leaf => exact isKeyword_val_of_ne (by simp) leaf
  | string leaf => exact isKeyword_val_of_ne (by simp) leaf

theorem every_conjunction_isKeyword_or (written : WrittenConjunction) :
    Every (fun token => token.isKeyword .or = false) written :=
  every_chain_of (isKeyword_val_of_ne (by decide)) (every_comparison_isKeyword .or) written

/-- The tokens of a condition are parted into those of its comparisons. -/
theorem groupsOf_tokens (written : WrittenCondition) :
    groupsOf (tokens written) = written.parts.map fun group => group.parts.map tokens := by
  rw [groupsOf, splitOnP_chain written every_conjunction_isKeyword_or, List.map_map]
  exact List.map_congr_left fun group _ => splitOnP_chain group (every_comparison_isKeyword .and)

/-! ## Conditions -/

/-- The tokens spell the comparison. -/
def Comparison.WrittenAs (c : Comparison) (ts : List Token) : Prop :=
  ∃ written : WrittenComparison, tokens written = ts ∧ written.comparison = c

/-- The comparisons of the condition are what the tokens spell between AND and OR, in order, and it
is as deep as the sizes of the groups tell. -/
structure Condition.Measured (c : Condition) (ts : List Token) : Prop where
  nonempty : groupsOf ts ≠ [] ∧ ∀ group ∈ groupsOf ts, group ≠ []
  comparisons : List.Forall₂ Comparison.WrittenAs c.comparisons (groupsOf ts).flatten
  length : c.comparisons.length = ((groupsOf ts).map List.length).sum
  depth : c.depth = Condition.groupedDepth ((groupsOf ts).map List.length)

theorem sizes_groups (written : WrittenCondition) :
    Condition.Groups.sizes (WrittenCondition.groups written) =
      (groupsOf (tokens written)).map List.length := by
  rw [groupsOf_tokens, List.map_map]
  simp [Condition.Groups.sizes, WrittenCondition.groups, Chain.parts]

theorem comparisons_condition (written : WrittenCondition) :
    (WrittenCondition.condition written).comparisons =
      written.parts.flatMap fun group => group.parts.map WrittenComparison.comparison := by
  rw [← WrittenCondition.ofGroups_groups, Condition.comparisons_ofGroups]
  simp [WrittenCondition.groups, Chain.parts, List.flatMap_map, Function.comp_def]

/-- The tokens that a condition is written with tell its comparisons and its depth. -/
theorem measured_condition (written : WrittenCondition) :
    (WrittenCondition.condition written).Measured (tokens written) := by
  have hcomparisons : List.Forall₂ Comparison.WrittenAs
      (WrittenCondition.condition written).comparisons (groupsOf (tokens written)).flatten := by
    have hparts : (groupsOf (tokens written)).flatten =
        (written.parts.flatMap Chain.parts).map tokens := by
      rw [groupsOf_tokens, List.map_flatMap]
      rfl
    rw [comparisons_condition, hparts, ← List.map_flatMap, List.forall₂_map_left_iff,
      List.forall₂_map_right_iff, List.forall₂_same]
    exact fun comparison _ => ⟨comparison, rfl, rfl⟩
  refine ⟨⟨?_, fun group hgroup => ?_⟩, hcomparisons, ?_, ?_⟩
  · simp [groupsOf, List.splitOnP_ne_nil]
  · obtain ⟨ts, -, rfl⟩ := List.mem_map.1 hgroup
    exact List.splitOnP_ne_nil _ ts
  · rw [hcomparisons.length_eq, List.length_flatten]
  · rw [← sizes_groups, ← Condition.depth_ofGroups, WrittenCondition.ofGroups_groups]

/-! ## Statements -/

/-- The tokens are a statement of the query, and each of its conditions is as the tokens between
its keyword and the next clause tell. -/
def Query.Measured (required : Bool) (q : Query) (ts : List Token) : Prop :=
  ∃ written : Derivation required, tokens written = ts ∧ written.query = q ∧
    Option.Rel (fun c filter => Condition.Measured c (tokens filter.2)) q.filter written.filter ∧
    Option.Rel (fun c having => Condition.Measured c (tokens having.2)) q.having
      (written.groups.bind fun groups => groups.2.having)

theorem measured_announced {keyword : Keyword} (part : Announced keyword WrittenCondition) :
    Option.Rel (fun c announced => Condition.Measured c (tokens announced.2))
      (part.map fun announced => WrittenCondition.condition announced.2) part := by
  cases part with
  | none => exact .none
  | some announced => exact .some (measured_condition announced.2)

theorem measured_query {required : Bool} (written : Derivation required) :
    written.query.Measured required (tokens written) := by
  refine ⟨written, rfl, rfl, measured_announced written.filter, ?_⟩
  have hhaving : written.query.having =
      (written.groups.bind fun groups => groups.2.having).map fun having =>
        WrittenCondition.condition having.2 := by
    simp only [Derivation.query, Option.map_bind, Function.comp_def]
  rw [hhaving]
  exact measured_announced _

/-- Whatever is parsed, from tokens or from a text, each condition of the query has the comparisons
that its tokens spell, in order, and is as deep as the numbers of comparisons between OR and OR
tell. -/
theorem measured_of_parse :
    (∀ (dialect : Dialect) (ts : List Token) (q : Query), Query.ofTokens dialect ts = .ok q →
      q.Measured dialect.terminatorRequired (ts.takeWhile (!·.isEof))) ∧
    ∀ (dialect : Dialect) (source : String) (q : Query), Query.parse dialect source = .ok q →
      ∃ ts stop, tokenize dialect source = .ok (ts ++ [.eof stop]) ∧
        q.Measured dialect.terminatorRequired ts := by
  constructor
  · intro dialect ts q h
    obtain ⟨written, htokens, rfl⟩ := ofTokens_eq_ok_iff.1 h
    rw [← htokens]
    exact measured_query written
  · intro dialect source q h
    obtain ⟨written, stop, htokens, -, rfl⟩ := exists_tokenize_of_parse h
    exact ⟨tokens written, stop, htokens, measured_query written⟩

/-- The largest group is neither the first, which lies below every OR, nor the last. -/
theorem measured_of_parse_middle_group :
    let source := "SELECT a FROM t WHERE a = 1 OR b = 2 AND c = 3 AND d = 4 OR e = 5"
    let a : Comparison := ⟨"a", .eq, .number "1"⟩
    let b : Comparison := ⟨"b", .eq, .number "2"⟩
    let c : Comparison := ⟨"c", .eq, .number "3"⟩
    let d : Comparison := ⟨"d", .eq, .number "4"⟩
    let e : Comparison := ⟨"e", .eq, .number "5"⟩
    let filter := Condition.ofGroups ((a, []), [(b, [c, d]), (e, [])])
    let q : Query := { columns := .columns ["a"], tables := ["t"], filter := some filter }
    Query.parse .lenient source = .ok q ∧ filter.comparisons = [a, b, c, d, e] ∧
      filter.depth = 5 ∧ Condition.groupedDepth [1, 3, 1] = 5 ∧
      ∃ ts stop, tokenize .lenient source = .ok (ts ++ [.eof stop]) ∧ q.Measured false ts := by
  intro source a b c d e filter q
  have hparse : Query.parse .lenient source = .ok q := by decide +kernel
  exact ⟨hparse, rfl, rfl, by decide, measured_of_parse.2 _ _ _ hparse⟩

end SelectLang

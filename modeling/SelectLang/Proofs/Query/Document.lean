import Mathlib.Data.List.Basic
import SelectLang.CommandLine.Outcome
import SelectLang.Proofs.Json.Reader

/-!
# Reading queries from documents

A query is read from its JSON form part by part.  Each decoder takes the names of alternatives and of
fields, and these in their order, as the documents of queries have them; so a value is decoded just
if it is the form of what comes out (`Query.isPartialInv_ofJson?`).  Since the text of a document is
read to one value, no two queries have the same text (`document_lossless`).
-/

namespace SelectLang

open Function (IsPartialInv)

/-! ## Names of alternatives -/

/-- The comparator of a name. -/
def Comparator.ofTag? : String → Option Comparator
  | "Eq" => some .eq
  | "NotEq" => some .ne
  | "Lt" => some .lt
  | "LtEq" => some .le
  | "Gt" => some .gt
  | "GtEq" => some .ge
  | _ => none

/-- The connective of a name. -/
def Connective.ofTag? : String → Option Connective
  | "And" => some .and
  | "Or" => some .or
  | _ => none

/-- The direction of a name. -/
def Direction.ofTag? : String → Option Direction
  | "Asc" => some .asc
  | "Desc" => some .desc
  | _ => none

theorem Comparator.isPartialInv_ofTag? : IsPartialInv Comparator.tag Comparator.ofTag? := by
  intro op tag
  constructor
  · intro h
    unfold ofTag? at h
    split at h <;> cases h <;> rfl
  · rintro rfl
    cases op <;> rfl

theorem Connective.isPartialInv_ofTag? : IsPartialInv Connective.tag Connective.ofTag? := by
  intro op tag
  constructor
  · intro h
    unfold ofTag? at h
    split at h <;> cases h <;> rfl
  · rintro rfl
    cases op <;> rfl

theorem Direction.isPartialInv_ofTag? : IsPartialInv Direction.tag Direction.ofTag? := by
  intro direction tag
  constructor
  · intro h
    unfold ofTag? at h
    split at h <;> cases h <;> rfl
  · rintro rfl
    cases direction <;> rfl

/-! ## Absent values and lists -/

/-- A list is decoded by parts just if it is made of their forms. -/
theorem mapM_eq_some_iff {α β : Type} {encode : α → β} {decode? : β → Option α}
    (h : IsPartialInv encode decode?) (as : List α) (bs : List β) :
    bs.mapM decode? = some as ↔ as.map encode = bs := by
  induction bs generalizing as with
  | nil => cases as <;> simp
  | cons b bs ih =>
    rw [List.mapM_cons]
    simp only [Option.bind_eq_bind, Option.bind_eq_some_iff, Option.pure_def, Option.some.injEq]
    constructor
    · rintro ⟨a, ha, others, hothers, rfl⟩
      rw [List.map_cons, (h a b).1 ha, (ih others).1 hothers]
    · intro heq
      obtain ⟨a, others, rfl, ha, hothers⟩ := List.map_eq_cons_iff.1 heq
      exact ⟨a, (h a b).2 ha, others, (ih others).2 hothers, rfl⟩

section

variable {α : Type} {toJson : α → Json} {ofJson? : Json → Option α}

/-- A value that may be absent. -/
def Json.optional? (ofJson? : Json → Option α) : Json → Option (Option α)
  | .null => some none
  | value => (ofJson? value).map some

/-- The values of a list. -/
def Json.list? (ofJson? : Json → Option α) : Json → Option (List α)
  | .array items => items.mapM ofJson?
  | _ => none

theorem Json.isPartialInv_optional? (h : IsPartialInv toJson ofJson?)
    (hnull : ∀ a, toJson a ≠ .null) :
    IsPartialInv (fun a? => (a?.map toJson).getD .null) (Json.optional? ofJson?) := by
  intro a? value
  constructor
  · intro heq
    unfold optional? at heq
    split at heq
    · cases heq
      rfl
    · obtain ⟨a, ha, rfl⟩ := Option.map_eq_some_iff.1 heq
      exact (h a _).1 ha
  · rintro rfl
    cases a? with
    | none => rfl
    | some a =>
      have hsome : optional? ofJson? (toJson a) = (ofJson? (toJson a)).map some := by
        have hne := hnull a
        unfold optional?
        split
        · contradiction
        · rfl
      exact hsome.trans (by rw [h.eq a, Option.map_some])

theorem Json.isPartialInv_list? (h : IsPartialInv toJson ofJson?) :
    IsPartialInv (fun as => .array (as.map toJson)) (Json.list? ofJson?) := by
  intro as value
  cases value <;> simp [list?, mapM_eq_some_iff h]

end

/-- The string that a value is. -/
def Json.string? : Json → Option String
  | .string s => some s
  | _ => none

theorem Json.isPartialInv_string? : IsPartialInv Json.string Json.string? := by
  intro s value
  cases value <;> simp [string?, eq_comm]

theorem Json.isPartialInv_strings? : IsPartialInv Json.strings (Json.list? Json.string?) :=
  Json.isPartialInv_list? Json.isPartialInv_string?

/-! ## Conditions -/

/-- The operand of a tagged string. -/
def Operand.ofJson? : Json → Option Operand
  | .object [("Identifier", .string name)] => some (.column name)
  | .object [("Number", .string text)] => some (.number text)
  | .object [("String", .string content)] => some (.string content)
  | _ => none

theorem Operand.isPartialInv_ofJson? : IsPartialInv Operand.toJson Operand.ofJson? := by
  intro operand value
  constructor
  · intro h
    unfold ofJson? at h
    split at h <;> cases h <;> rfl
  · rintro rfl
    cases operand <;> rfl

/-- The comparison of its three parts. -/
def Comparison.ofJson? : Json → Option Comparison
  | .object [("column", .string column), ("op", .string op), ("value", value)] => do
      return ⟨column, ← Comparator.ofTag? op, ← Operand.ofJson? value⟩
  | _ => none

theorem Comparison.isPartialInv_ofJson? : IsPartialInv Comparison.toJson Comparison.ofJson? := by
  intro c value
  constructor
  · intro h
    unfold ofJson? at h
    split at h
    · simp only [Option.pure_def, Option.bind_eq_bind, Option.bind_eq_some_iff] at h
      obtain ⟨op, hop, operand, hoperand, h⟩ := h
      cases h
      rw [toJson, (Comparator.isPartialInv_ofTag? op _).1 hop,
        (Operand.isPartialInv_ofJson? operand _).1 hoperand]
    · cases h
  · rintro rfl
    simp [toJson, ofJson?, (Comparator.isPartialInv_ofTag? c.op _).2 rfl,
      (Operand.isPartialInv_ofJson? c.operand _).2 rfl]

/-- The tree of tagged comparisons and joined pairs. -/
def Condition.ofJson? : Json → Option Condition
  | .object [("Comparison", comparison)] => (Comparison.ofJson? comparison).map .leaf
  | .object [("Binary", .object [("left", left), ("op", .string op), ("right", right)])] => do
      return .node (← ofJson? left) (← Connective.ofTag? op) (← ofJson? right)
  | _ => none

theorem Condition.isPartialInv_ofJson? : IsPartialInv Condition.toJson Condition.ofJson? := by
  intro c value
  constructor
  · intro h
    induction c generalizing value with
    | leaf c =>
      unfold ofJson? at h
      split at h
      · obtain ⟨c', hc, heq⟩ := Option.map_eq_some_iff.1 h
        cases heq
        rw [toJson, (Comparison.isPartialInv_ofJson? c _).1 hc]
        rfl
      · simp [Option.bind_eq_some_iff] at h
      · cases h
    | node left op right ihleft ihright =>
      unfold ofJson? at h
      split at h
      · simp at h
      · simp only [Option.pure_def, Option.bind_eq_bind, Option.bind_eq_some_iff] at h
        obtain ⟨left', hleft, op', hop, right', hright, heq⟩ := h
        cases heq
        rw [toJson, ihleft _ hleft, (Connective.isPartialInv_ofTag? op _).1 hop, ihright _ hright]
        rfl
      · cases h
  · rintro rfl
    induction c with
    | leaf c => simp [toJson, Json.tagged, ofJson?, Comparison.isPartialInv_ofJson?.eq c]
    | node left op right ihleft ihright =>
      simp [toJson, Json.tagged, ofJson?, ihleft, Connective.isPartialInv_ofTag?.eq op, ihright]

theorem Condition.toJson_ne_null (c : Condition) : c.toJson ≠ .null := by
  cases c <;> nofun

/-! ## Queries -/

/-- The projection of a word or of a tagged list. -/
def Projection.ofJson? : Json → Option Projection
  | .string "Wildcard" => some .all
  | .object [("Columns", names)] => (names.list? Json.string?).map .columns
  | _ => none

theorem Projection.isPartialInv_ofJson? : IsPartialInv Projection.toJson Projection.ofJson? := by
  intro columns value
  constructor
  · intro h
    unfold ofJson? at h
    split at h
    · cases h
      rfl
    · obtain ⟨names, hnames, heq⟩ := Option.map_eq_some_iff.1 h
      cases heq
      rw [toJson, (Json.isPartialInv_strings? names _).1 hnames]
      rfl
    · cases h
  · rintro rfl
    cases columns with
    | all => rfl
    | columns names => simp [toJson, Json.tagged, ofJson?, Json.isPartialInv_strings?.eq names]

/-- The sort key of its two parts. -/
def SortKey.ofJson? : Json → Option SortKey
  | .object [("column", .string column), ("direction", .string direction)] =>
      (Direction.ofTag? direction).map (⟨column, ·⟩)
  | _ => none

theorem SortKey.isPartialInv_ofJson? : IsPartialInv SortKey.toJson SortKey.ofJson? := by
  intro key value
  constructor
  · intro h
    unfold ofJson? at h
    split at h
    · obtain ⟨direction, hdirection, rfl⟩ := Option.map_eq_some_iff.1 h
      rw [toJson, (Direction.isPartialInv_ofTag? direction _).1 hdirection]
    · cases h
  · rintro rfl
    simp [toJson, ofJson?, Direction.isPartialInv_ofTag?.eq key.direction]

/-- The query of its clauses. -/
def Query.ofJson? : Json → Option Query
  | .object
      [("columns", columns), ("tables", tables), ("where_clause", filter), ("group_by", grouping),
       ("having", having), ("order_by", ordering), ("terminated", .bool terminated)] => do
      return {
        columns := ← Projection.ofJson? columns
        tables := ← tables.list? Json.string?
        filter := ← filter.optional? Condition.ofJson?
        grouping := ← grouping.list? Json.string?
        having := ← having.optional? Condition.ofJson?
        ordering := ← ordering.list? SortKey.ofJson?
        terminated }
  | _ => none

theorem Query.isPartialInv_ofJson? : IsPartialInv Query.toJson Query.ofJson? := by
  have hcondition :=
    Json.isPartialInv_optional? Condition.isPartialInv_ofJson? Condition.toJson_ne_null
  have hkeys := Json.isPartialInv_list? SortKey.isPartialInv_ofJson?
  intro q value
  constructor
  · intro h
    unfold ofJson? at h
    split at h
    · simp only [Option.pure_def, Option.bind_eq_bind, Option.bind_eq_some_iff] at h
      obtain ⟨columns, hcolumns, tables, htables, filter, hfilter, grouping, hgrouping, having,
        hhaving, ordering, hordering, heq⟩ := h
      cases heq
      obtain rfl := (Projection.isPartialInv_ofJson? columns _).1 hcolumns
      obtain rfl := (Json.isPartialInv_strings? tables _).1 htables
      obtain rfl := (hcondition filter _).1 hfilter
      obtain rfl := (Json.isPartialInv_strings? grouping _).1 hgrouping
      obtain rfl := (hcondition having _).1 hhaving
      obtain rfl := (hkeys ordering _).1 hordering
      rfl
    · cases h
  · rintro rfl
    simp [toJson, ofJson?, Projection.isPartialInv_ofJson?.eq q.columns,
      Json.isPartialInv_strings?.eq, hcondition.eq q.filter, hcondition.eq q.having,
      hkeys.eq q.ordering]

/-! ## Texts -/

/-- The text that is printed for a query is a document, of one value: the JSON form of the query,
from which the query is decoded.  Only that form is decoded to it, and no other query has the same
text. -/
theorem document_lossless (q : Query) :
    (∀ (dialect : Dialect) (source : String),
      Query.parse dialect (String.ofList (Text.trim source.toList)) = .ok q →
        Outcome.ofTree dialect true source = ⟨q.toJson.render ++ "\n", 0⟩) ∧
    (∀ value, Json.IsDocument (q.toJson.render ++ "\n") value ↔ value = q.toJson) ∧
    (Json.read? (q.toJson.render ++ "\n")).bind Query.ofJson? = some q ∧
    (∀ value, Query.ofJson? value = some q ↔ value = q.toJson) ∧
    ∀ q' : Query, q'.toJson.render = q.toJson.render ↔ q' = q := by
  have hdocument : ∀ q : Query, Json.IsDocument (q.toJson.render ++ "\n") q.toJson := fun q =>
    Json.isDocument_render_append _ (by simp [Json.isGap])
  have hread : ∀ q : Query, Json.read? (q.toJson.render ++ "\n") = some q.toJson := fun q =>
    Json.read?_of_isDocument (hdocument q)
  refine ⟨fun dialect source hparse => ?_, fun value => ?_, ?_, fun value => ?_, fun q' => ?_⟩
  · rw [Outcome.ofTree, hparse]
    rfl
  · constructor
    · intro h
      exact Option.some.inj ((Json.read?_of_isDocument h).symm.trans (hread q))
    · rintro rfl
      exact hdocument q
  · rw [hread, Option.bind_some, Query.isPartialInv_ofJson?.eq]
  · rw [Query.isPartialInv_ofJson?, eq_comm]
  · constructor
    · intro h
      have hjson : some q'.toJson = some q.toJson := by rw [← hread, ← hread, h]
      exact Query.isPartialInv_ofJson?.injective (Option.some.inj hjson)
    · rintro rfl
      rfl

/-- A string with a quote, a backslash and a control character comes back from the document that is
printed for its statement, and so does the shape of the condition. -/
theorem document_lossless_escaped :
    let source := "SELECT a, b FROM t WHERE a = '\"\\\u0001' AND b <> 1 OR c = d ORDER BY a;"
    let condition := Condition.node
      (.node (.leaf ⟨"a", .eq, .string "\"\\\u0001"⟩) .and (.leaf ⟨"b", .ne, .number "1"⟩)) .or
      (.leaf ⟨"c", .eq, .column "d"⟩)
    let q : Query :=
      { columns := .columns ["a", "b"], tables := ["t"], filter := some condition,
        ordering := [⟨"a", .asc⟩], terminated := true }
    Query.parse .strict (String.ofList (Text.trim source.toList)) = .ok q ∧
      Outcome.ofTree .strict true source = ⟨q.toJson.render ++ "\n", 0⟩ ∧
      (Json.read? (q.toJson.render ++ "\n")).bind Query.ofJson? = some q := by
  intro source condition q
  have hparse : Query.parse .strict (String.ofList (Text.trim source.toList)) = .ok q := by
    decide +kernel
  obtain ⟨hprint, -, hread, -⟩ := document_lossless q
  exact ⟨hparse, hprint .strict source hparse, hread⟩

end SelectLang

import Mathlib.Data.List.Forall2
import SelectLang.Query.Basic
import SelectLang.Token.Basic

/-!
# Similar tokens and similar queries

Two tokens are similar if they are of one kind and the texts that they carry are related; two
queries are similar if they are built alike and have related texts in the same places.  With
equality for the relation, similar queries are equal (`Query.Similar.eq`).
-/

namespace SelectLang

variable {S : String → String → Prop}

/-- The text of a token of the kind stands for itself: it is a name, a number or the content of a
string. -/
def Kind.CarriesText (kind : Kind) : Prop :=
  kind = .identifier ∨ kind = .number ∨ kind = .string

/-- The kind and the text of the token, its place aside. -/
def Token.label (token : Token) : Kind × String := (token.kind, token.text)

/-- Tokens of one kind, with related texts where the text stands for itself. -/
structure Token.Similar (S : String → String → Prop) (t t' : Token) : Prop where
  kind : t.kind = t'.kind
  text : t.kind.CarriesText → S t.text t'.text

/-- Tokens of the same kinds are similar, whatever their texts. -/
theorem similar_of_kinds {ts ts' : List Token} (h : ts.map Token.kind = ts'.map Token.kind) :
    List.Forall₂ (Token.Similar fun _ _ => True) ts ts' := by
  rw [← List.forall₂_eq_eq_eq, List.forall₂_map_left_iff, List.forall₂_map_right_iff] at h
  exact h.imp fun _ _ hkind => ⟨hkind, fun _ => trivial⟩

/-- Projections built alike from related names. -/
inductive Projection.Similar (S : String → String → Prop) : Projection → Projection → Prop
  | all : Similar S .all .all
  | columns {names names' : List String} (h : List.Forall₂ S names names') :
      Similar S (.columns names) (.columns names')

/-- Operands of one sort with related texts. -/
inductive Operand.Similar (S : String → String → Prop) : Operand → Operand → Prop
  | column {name name' : String} (h : S name name') : Similar S (.column name) (.column name')
  | number {text text' : String} (h : S text text') : Similar S (.number text) (.number text')
  | string {content content' : String} (h : S content content') :
      Similar S (.string content) (.string content')

/-- Comparisons by the same comparator of related columns with similar operands. -/
structure Comparison.Similar (S : String → String → Prop) (c c' : Comparison) : Prop where
  column : S c.column c'.column
  op : c.op = c'.op
  operand : c.operand.Similar S c'.operand

/-- Trees of one shape with similar comparisons. -/
inductive Condition.Similar (S : String → String → Prop) : Condition → Condition → Prop
  | leaf {c c' : Comparison} (h : c.Similar S c') : Similar S (.leaf c) (.leaf c')
  | node {left left' right right' : Condition} (op : Connective) (hleft : Similar S left left')
      (hright : Similar S right right') :
      Similar S (.node left op right) (.node left' op right')

/-- Sort keys of one direction by related columns. -/
structure SortKey.Similar (S : String → String → Prop) (key key' : SortKey) : Prop where
  column : S key.column key'.column
  direction : key.direction = key'.direction

/-- Queries with similar clauses. -/
structure Query.Similar (S : String → String → Prop) (q q' : Query) : Prop where
  columns : q.columns.Similar S q'.columns
  tables : List.Forall₂ S q.tables q'.tables
  filter : Option.Rel (Condition.Similar S) q.filter q'.filter
  grouping : List.Forall₂ S q.grouping q'.grouping
  having : Option.Rel (Condition.Similar S) q.having q'.having
  ordering : List.Forall₂ (SortKey.Similar S) q.ordering q'.ordering
  terminated : q.terminated = q'.terminated

/-- A chain of similar conditions is similar. -/
theorem Condition.Similar.chain {op : Connective} {first first' : Condition}
    {others others' : List Condition} (hfirst : first.Similar S first')
    (hothers : List.Forall₂ (Condition.Similar S) others others') :
    (Condition.chain op first others).Similar S (Condition.chain op first' others') := by
  induction hothers generalizing first first' with
  | nil => exact hfirst
  | cons hother _ ih => exact ih (.node op hfirst hother)

/-! ## Similar by equality -/

theorem eq_of_forall₂ {α : Type} {R : α → α → Prop} (hR : ∀ {a b}, R a b → a = b)
    {xs ys : List α} (h : List.Forall₂ R xs ys) : xs = ys := by
  induction h with
  | nil => rfl
  | cons h _ ih => rw [hR h, ih]

theorem eq_of_optionRel {α : Type} {R : α → α → Prop} (hR : ∀ {a b}, R a b → a = b)
    {x y : Option α} (h : Option.Rel R x y) : x = y := by
  cases h with
  | some h => rw [hR h]
  | none => rfl

theorem Projection.Similar.eq {p p' : Projection} (h : p.Similar Eq p') : p = p' := by
  cases h with
  | all => rfl
  | columns h => rw [eq_of_forall₂ id h]

theorem Operand.Similar.eq {o o' : Operand} (h : o.Similar Eq o') : o = o' := by
  cases h with
  | column h => rw [h]
  | number h => rw [h]
  | string h => rw [h]

theorem Comparison.Similar.eq {c c' : Comparison} (h : c.Similar Eq c') : c = c' := by
  obtain ⟨hcolumn, hop, hoperand⟩ := h
  cases c
  cases c'
  obtain rfl := hoperand.eq
  subst hcolumn hop
  rfl

theorem Condition.Similar.eq {c c' : Condition} (h : c.Similar Eq c') : c = c' := by
  induction h with
  | leaf h => rw [h.eq]
  | node op _ _ ihleft ihright => rw [ihleft, ihright]

theorem SortKey.Similar.eq {key key' : SortKey} (h : key.Similar Eq key') : key = key' := by
  cases key
  cases key'
  obtain ⟨hcolumn, hdirection⟩ := h
  subst hcolumn hdirection
  rfl

theorem Query.Similar.eq {q q' : Query} (h : q.Similar Eq q') : q = q' := by
  cases q
  cases q'
  obtain ⟨hcolumns, htables, hfilter, hgrouping, hhaving, hordering, hterminated⟩ := h
  simp only at hcolumns htables hfilter hgrouping hhaving hordering hterminated
  rw [hcolumns.eq, eq_of_forall₂ id htables, eq_of_optionRel Condition.Similar.eq hfilter,
    eq_of_forall₂ id hgrouping, eq_of_optionRel Condition.Similar.eq hhaving,
    eq_of_forall₂ SortKey.Similar.eq hordering, hterminated]

end SelectLang

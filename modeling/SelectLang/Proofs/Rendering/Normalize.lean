import SelectLang.Proofs.Statement.Image

/-!
# Parsing any rendered query

A query built by hand is rendered like any other, but not all of it shows in the text: how its
conditions are grouped does not, and neither does a condition on groups where there are none.  What
is parsed back is the query in the form that the text stands for (`parse_render_normalize`); it is
rendered to the same text, and the query itself comes back only if it was in that form already.
-/

namespace SelectLang

namespace Query

/-- The query with its conditions grouped anew, and with a condition on groups only where there are
groups. -/
def normalize (q : Query) : Query :=
  { q with
    filter := q.filter.map Condition.regroup
    having := if q.grouping = [] then none else q.having.map Condition.regroup }

theorem having_normalize_of_ne_nil {q : Query} (h : q.grouping ≠ []) :
    q.normalize.having = q.having.map Condition.regroup := if_neg h

theorem having_normalize_of_eq_nil {q : Query} (h : q.grouping = []) :
    q.normalize.having = none := if_pos h

theorem mem_having_normalize {q : Query} {c : Condition} (h : c ∈ q.normalize.having) :
    ∃ c' ∈ q.having, c'.regroup = c := by
  by_cases hnil : q.grouping = []
  · rw [having_normalize_of_eq_nil hnil] at h
    cases h
  · rw [having_normalize_of_ne_nil hnil] at h
    exact Option.map_eq_some_iff.1 h

/-- The normal form holds no other texts. -/
theorem Spellable.normalize {quotes : QuoteStyle} {q : Query} (h : q.Spellable quotes) :
    q.normalize.Spellable quotes := by
  refine ⟨h.columns, h.tables, fun _ hmem => ?_, h.grouping, fun _ hmem => ?_, h.ordering⟩
  · obtain ⟨c, hc, rfl⟩ := Option.map_eq_some_iff.1 hmem
    exact c.spellable_regroup_iff.2 (h.filter c hc)
  · obtain ⟨c, hc, rfl⟩ := mem_having_normalize hmem
    exact c.spellable_regroup_iff.2 (h.having c hc)

theorem regular_normalize (q : Query) : q.normalize.Regular := by
  refine ⟨fun _ hmem => ?_, fun _ hmem => ?_, fun hnil => having_normalize_of_eq_nil hnil⟩
  · obtain ⟨c, -, rfl⟩ := Option.map_eq_some_iff.1 hmem
    exact c.leftGrouped_regroup
  · obtain ⟨c, -, rfl⟩ := mem_having_normalize hmem
    exact c.leftGrouped_regroup

theorem map_regroup_eq_self_iff {condition : Option Condition} :
    condition.map Condition.regroup = condition ↔ ∀ c ∈ condition, c.LeftGrouped := by
  cases condition with
  | none => simp
  | some c => simp [Condition.regroup_eq_self_iff]

/-- Just the queries that a reader builds are in normal form. -/
theorem normalize_eq_self_iff {q : Query} : q.normalize = q ↔ q.Regular := by
  constructor
  · intro h
    rw [← h]
    exact q.regular_normalize
  · intro h
    have hfilter := map_regroup_eq_self_iff.2 h.filter
    have hhaving : q.normalize.having = q.having := by
      by_cases hnil : q.grouping = []
      · rw [having_normalize_of_eq_nil hnil, h.grouping hnil]
      · rw [having_normalize_of_ne_nil hnil, map_regroup_eq_self_iff.2 h.having]
    calc q.normalize
        = { q with filter := q.filter.map Condition.regroup, having := q.normalize.having } := rfl
      _ = q := by rw [hfilter, hhaving]

/-- The normal form is written as the query is. -/
theorem render_normalize (q : Query) : q.normalize.render = q.render := by
  obtain ⟨columns, tables, filter, grouping, having, ordering, terminated⟩ := q
  cases grouping with
  | nil => cases filter <;> simp [render, normalize]
  | cons name names => cases filter <;> cases having <;> simp [render, normalize]

end Query

/-- Rendering and parsing a query brings it into normal form, and gives back the query only if it
was in that form.  The comparisons that are rendered stay in order, and the text stays as it is. -/
theorem parse_render_normalize {q : Query} (h : q.Spellable .both) :
    Query.parse .lenient q.render = .ok q.normalize ∧
    (Query.parse .lenient q.render = .ok q ↔ q.Regular) ∧
    q.normalize.filter.map Condition.comparisons = q.filter.map Condition.comparisons ∧
    (q.grouping ≠ [] →
      q.normalize.having.map Condition.comparisons = q.having.map Condition.comparisons) ∧
    q.normalize.render = q.render := by
  have hparse : Query.parse .lenient q.render = .ok q.normalize := by
    obtain ⟨derivation, hlexemes, hquery⟩ := (spells_query false).complete
      (a := q.normalize) ⟨h.normalize, q.regular_normalize, nofun⟩
    have hboth : ∀ content ∈ derivation.query.strings,
        QuoteStyle.both.accepts (Operand.quoteFor content) = true := by
      intro content _
      rcases quoteFor_eq content with hquote | hquote <;> rw [hquote] <;> rfl
    have hagain : Query.parse .lenient derivation.query.render = .ok derivation.query :=
      parse_render_of_accepts hlexemes hboth nofun
    rw [hquery, q.render_normalize] at hagain
    exact hagain
  refine ⟨hparse, ?_, ?_, fun hne => ?_, q.render_normalize⟩
  · rw [hparse, Except.ok.injEq, Query.normalize_eq_self_iff]
  · simp [Query.normalize, Function.comp_def]
  · simp [Query.having_normalize_of_ne_nil hne, Function.comp_def]

/-- An AND above an OR is written without the parentheses that it would need. -/
theorem parse_render_and_above_or :
    Query.parse .lenient (Query.render
      { columns := .all, tables := ["t"]
        filter := some (.node (.leaf ⟨"a", .eq, .number "1.5"⟩) .and
          (.node (.leaf ⟨"b", .ne, .string "it's"⟩) .or (.leaf ⟨"c", .lt, .column "d"⟩)))
        having := some (.leaf ⟨"e", .gt, .number "0"⟩) }) =
      .ok
        { columns := .all, tables := ["t"]
          filter := some (.node (.node (.leaf ⟨"a", .eq, .number "1.5"⟩) .and
            (.leaf ⟨"b", .ne, .string "it's"⟩)) .or (.leaf ⟨"c", .lt, .column "d"⟩)) } :=
  (parse_render_normalize (by decide +kernel)).1

end SelectLang

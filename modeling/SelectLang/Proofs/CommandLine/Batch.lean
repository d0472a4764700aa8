import SelectLang.Proofs.CommandLine.Check
import SelectLang.Proofs.Rendering.Lines
import SelectLang.Proofs.Text.Splitting

/-!
# Batches of rendered queries

Queries that are rendered, each on a line of its own, make a batch.  It is split into the rendered
queries again exactly if no string among them holds a newline, and then a check of it finds all of
them valid (`check_renders`).
-/

namespace SelectLang

open Text

/-! ## Splitting -/

/-- The rendered queries with a newline between each two. -/
def batch (queries : List Query) : String := "\n".intercalate (queries.map Query.render)

variable {queries : List Query}

/-- A batch is split where its queries were joined, unless a string holds a newline. -/
theorem splitBatch_batch_iff
    (h : ∀ q ∈ queries, ∃ dialect source, Query.parse dialect source = .ok q) :
    splitBatch (batch queries) = queries.map Query.render ↔
      ∀ q ∈ queries, ∀ content ∈ q.strings, '\n' ∉ content.toList := by
  have hentry : ∀ q ∈ queries, IsEntry q.render.toList ↔
      ∀ content ∈ q.strings, '\n' ∉ content.toList := by
    intro q hq
    obtain ⟨dialect, source, hparse⟩ := h q hq
    exact isEntry_render_iff hparse
  constructor
  · intro hsplit q hq
    apply (hentry q hq).1
    -- nothing that a batch is split into holds a newline
    have hmem : q.render ∈ splitBatch (batch queries) := by
      rw [hsplit]
      exact List.mem_map_of_mem hq
    exact isEntry_of_mem_splitBatch hmem
  · intro hnone
    apply splitBatch_intercalate
    rw [List.forall_mem_map]
    intro q hq
    exact (hentry q hq).2 (hnone q hq)

/-! ## Checking -/

/-- Both quotes are accepted, so a query is parsed again whatever its strings hold. -/
theorem parse_lenient_render {dialect : Dialect} {source : String} {q : Query}
    (h : Query.parse dialect source = .ok q) : Query.parse .lenient q.render = .ok q := by
  obtain ⟨derivation, hlexemes, rfl⟩ := exists_derivation_of_parse h
  apply parse_render_of_accepts hlexemes
  · intro content _
    rcases quoteFor_eq content with hquote | hquote <;> rw [hquote] <;> rfl
  · intro hrequired
    cases hrequired

/-- Statements that are all valid. -/
theorem ofCheck_of_forall_valid {dialect : Dialect} {texts : List String}
    (h : ∀ text ∈ texts, ∃ q, Query.parse dialect text = .ok q) :
    Outcome.ofCheck dialect texts =
      ⟨String.join (List.replicate texts.length "Valid SQL query!\n"), 0⟩ := by
  have hchecks := checks_ofCheck dialect texts
  have hvalid : ∀ line ∈ verdicts dialect texts, line = "Valid SQL query!" := by
    rw [verdicts, List.forall_mem_map]
    intro text htext
    exact verdict_eq_valid_iff.2 (h text htext)
  have hlines : (verdicts dialect texts).map (· ++ "\n") =
      List.replicate texts.length "Valid SQL query!\n" := by
    rw [List.eq_replicate_of_mem hvalid, verdicts, List.length_map, List.map_replicate]
    rfl
  have houtput := hchecks.output
  have hcode := hchecks.code
  rw [hlines] at houtput
  rw [if_pos hvalid] at hcode
  generalize Outcome.ofCheck dialect texts = outcome at houtput hcode ⊢
  obtain ⟨output, code⟩ := outcome
  obtain rfl : output = _ := houtput
  obtain rfl : code = _ := hcode
  rfl

/-- Whatever reads the arguments, a check of a batch of rendered queries finds all of them valid. -/
theorem ArgumentReader.respond_batch {reader : ArgumentReader}
    {environment : Option String} {args : List String} {verbose : Bool}
    (hcheck : reader environment args = .ok ⟨.check [], .lenient, verbose⟩)
    (h : ∀ q ∈ queries, ∃ dialect source, Query.parse dialect source = .ok q)
    (hnone : ∀ q ∈ queries, ∀ content ∈ q.strings, '\n' ∉ content.toList) :
    reader.respond environment args (batch queries).toUTF8 =
      ⟨String.join (List.replicate queries.length "Valid SQL query!\n"), 0⟩ := by
  have hvalid : ∀ text ∈ queries.map Query.render, ∃ q, Query.parse .lenient text = .ok q := by
    rw [List.forall_mem_map]
    intro q hq
    obtain ⟨dialect, source, hsource⟩ := h q hq
    exact ⟨q, parse_lenient_render hsource⟩
  rw [ArgumentReader.respond_of_check_input hcheck, (splitBatch_batch_iff h).2 hnone,
    ofCheck_of_forall_valid hvalid, List.length_map]

/-- A batch of rendered queries is split into them exactly if no string in them holds a newline, and
a check of it then prints for each that it is valid, and succeeds. -/
theorem check_renders
    (h : ∀ q ∈ queries, ∃ dialect source, Query.parse dialect source = .ok q) :
    (splitBatch (batch queries) = queries.map Query.render ↔
        ∀ q ∈ queries, ∀ content ∈ q.strings, '\n' ∉ content.toList) ∧
      ((∀ q ∈ queries, ∀ content ∈ q.strings, '\n' ∉ content.toList) →
        ∀ (environment : Option String) (args : List String) (verbose : Bool),
          Invocation.parse environment args = .ok ⟨.check [], .lenient, verbose⟩ →
            respond environment args (batch queries).toUTF8 =
              ⟨String.join (List.replicate queries.length "Valid SQL query!\n"), 0⟩) := by
  constructor
  · exact splitBatch_batch_iff h
  · intro hnone environment args verbose hparse
    exact ArgumentReader.respond_batch (argumentReader_eq_ok_iff.2 hparse) h hnone

/-- Blanks other than the newline do no harm in a string, wherever they stand in it. -/
theorem check_renders_carriage_return :
    let queries : List Query :=
      [{ columns := .all, tables := ["t"], filter := some (.leaf ⟨"b", .eq, .string "x\r"⟩) },
        { columns := .columns ["a"], tables := ["t"],
          filter := some (.leaf ⟨"b", .ne, .string "\u2028'"⟩), terminated := true }]
    (∀ q ∈ queries, ∃ dialect source, Query.parse dialect source = .ok q) ∧
      splitBatch (batch queries) = queries.map Query.render ∧
      respond none ["check"] (batch queries).toUTF8 =
        ⟨"Valid SQL query!\nValid SQL query!\n", 0⟩ := by
  intro queries
  have hparsed : ∀ q ∈ queries, ∃ dialect source, Query.parse dialect source = .ok q := by
    intro q hq
    rcases List.mem_cons.1 hq with rfl | hq
    · exact ⟨.lenient, "select * from t where b = 'x\r'", by decide +kernel⟩
    · obtain rfl := List.mem_singleton.1 hq
      exact ⟨⟨true, .double⟩, "SELECT a FROM t WHERE b != \"\u2028'\";", by decide +kernel⟩
  have hnone : ∀ q ∈ queries, ∀ content ∈ q.strings, '\n' ∉ content.toList := by decide
  obtain ⟨hsplit, hcheck⟩ := check_renders hparsed
  refine ⟨hparsed, hsplit.2 hnone, ?_⟩
  exact hcheck hnone none ["check"] false (by decide)

end SelectLang

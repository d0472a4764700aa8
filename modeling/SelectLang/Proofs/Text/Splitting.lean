import SelectLang.Proofs.Text.Entries
import SelectLang.CommandLine.Outcome

/-!
# Splitting a batch

A batch is split at the ends of its lines.  So two batches with a newline between them are split one
after the other (`splitBatch_append_newline`), and statements come back from a batch in which they
stand one on a line (`splitBatch_of_onLines`).  All laws of splitting together are
`splitBatch_lines`.
-/

namespace SelectLang

open Text

theorem isEntry_of_mem_splitBatch {text line : String} (h : line ∈ splitBatch text) :
    IsEntry line.toList := by
  obtain ⟨entry, hentry, rfl⟩ := List.mem_map.1 h
  rw [String.toList_ofList]
  exact isEntry_of_mem_entries hentry

theorem splitBatch_append_newline (before after : String) :
    splitBatch (before ++ "\n" ++ after) = splitBatch before ++ splitBatch after := by
  have htext : (before ++ "\n" ++ after).toList = before.toList ++ '\n' :: after.toList := by simp
  rw [splitBatch, htext, entries_append_newline, List.map_append]
  rfl

theorem visible_splitBatch (text : String) :
    visible ((splitBatch text).flatMap String.toList) = visible text.toList := by
  have hentries : (splitBatch text).flatMap String.toList = (entries text.toList).flatten := by
    simp [splitBatch, List.flatMap_map]
  rw [hentries, visible_entries]

theorem splitBatch_of_onLines {queries : List String} {text : String}
    (h : OnLines (queries.map String.toList) text.toList)
    (hentry : ∀ query ∈ queries, IsEntry query.toList) : splitBatch text = queries := by
  rw [splitBatch, entries_of_onLines h (List.forall_mem_map.2 hentry)]
  simp

theorem splitBatch_intercalate {texts : List String} (h : ∀ text ∈ texts, IsEntry text.toList) :
    splitBatch ("\n".intercalate texts) = texts := by
  apply splitBatch_of_onLines _ h
  rw [String.toList_intercalate]
  exact onLines_intercalate _

/-- Splitting undoes joining by newlines.  What a batch is split into are entries, which hold all of
its characters but blanks, in order; and entries that stand in a text one on a line, be the ends of
the lines newlines or carriage returns with newlines, and be there blank lines or not, are what the
text is split into. -/
theorem splitBatch_lines :
    (∀ before after : String,
      splitBatch (before ++ "\n" ++ after) = splitBatch before ++ splitBatch after) ∧
    (∀ text : String, (∀ query ∈ splitBatch text, IsEntry query.toList) ∧
      visible ((splitBatch text).flatMap String.toList) = visible text.toList) ∧
    ∀ (queries : List String) (text : String), (∀ query ∈ queries, IsEntry query.toList) →
      OnLines (queries.map String.toList) text.toList → splitBatch text = queries := by
  refine ⟨splitBatch_append_newline, fun text => ⟨?_, visible_splitBatch text⟩, ?_⟩
  · intro query hquery
    exact isEntry_of_mem_splitBatch hquery
  · intro queries text hentry hlines
    exact splitBatch_of_onLines hlines hentry

/-- A carriage return ends no line by itself, and neither does a line separator. -/
theorem splitBatch_lines_carriage_return :
    let queries := ["select a\rfrom t", "b\u2028;"]
    let text := "\r\nselect a\rfrom t\r\n\u3000\nb\u2028;"
    (∀ query ∈ queries, IsEntry query.toList) ∧
      OnLines (queries.map String.toList) text.toList ∧ splitBatch text = queries := by
  intro queries text
  have hentry : ∀ query ∈ queries, IsEntry query.toList := by decide
  have hempty : Line [] [] := .blank (by simp) (by decide)
  have hwide : Line [] ['\u3000'] := .blank (List.forall_mem_singleton.2 (by decide)) (by decide)
  have hnewline : ['\n'] ∈ lineEnds := by decide
  have hreturn : ['\r', '\n'] ∈ lineEnds := by decide
  have htext : text.toList = [] ++ (['\r', '\n'] ++ ("select a\rfrom t".toList ++ (['\r', '\n'] ++
      (['\u3000'] ++ (['\n'] ++ "b\u2028;".toList))))) := by decide
  have hlines : OnLines (queries.map String.toList) text.toList := by
    rw [htext]
    exact .line hempty hreturn <| .line (.entry _) hreturn <| .line hwide hnewline <|
      .last (.entry _)
  exact ⟨hentry, hlines, splitBatch_lines.2.2 queries text hentry hlines⟩

end SelectLang

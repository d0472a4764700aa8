import Mathlib.Data.List.DropRight
import SelectLang.Text.Blank

/-!
# Trimming and splitting

What trimming takes off a text is blank (`exists_blanks_trim`), and what it leaves is bare
(`bare_trim`): it has no blank at either end, and so trimming leaves it alone (`trim_eq_self`).  The
entries of a batch are bare, hold something, and hold no newline (`isEntry_of_mem_entries`), and
between them they hold all characters but blanks (`visible_entries`).  Texts like these are the
entries of any text in which they stand one on a line, whatever its lines end with and however many
of them are blank (`entries_of_onLines`).
-/

namespace SelectLang.Text

/-! ## Trimming -/

/-- The text has no blank at either end. -/
structure Bare (cs : List Char) : Prop where
  head : ∀ c ∈ cs.head?, isBlank c = false
  last : ∀ c ∈ cs.getLast?, isBlank c = false

instance : DecidablePred Bare := fun cs =>
  decidable_of_iff
    (cs.head?.all (!isBlank ·) = true ∧ cs.getLast?.all (!isBlank ·) = true)
    (by simpa [Option.all_eq_true] using ⟨fun h => ⟨h.1, h.2⟩, fun h => ⟨h.head, h.last⟩⟩)

theorem trimBack_eq_rdropWhile (cs : List Char) : trimBack cs = cs.rdropWhile isBlank := rfl

theorem bare_trim (cs : List Char) : Bare (trim cs) := by
  constructor
  · intro c hc
    obtain ⟨tail, htail⟩ := List.rdropWhile_prefix isBlank (trimFront cs)
    have hfront : c ∈ (trimFront cs).head? := by
      rw [← htail]
      exact List.mem_head?_append_of_mem_head? hc
    have hnot := List.head?_dropWhile_not isBlank cs
    rw [Option.mem_def] at hfront
    rw [trimFront] at hfront
    rwa [hfront] at hnot
  · intro c hc
    obtain ⟨hne, rfl⟩ := List.mem_getLast?_eq_getLast hc
    exact Bool.eq_false_iff.2 (List.rdropWhile_last_not isBlank (trimFront cs) hne)

/-- Trimming takes blanks off both ends. -/
theorem exists_blanks_trim (cs : List Char) :
    ∃ tail, (∀ c ∈ tail, isBlank c = true) ∧
      cs.takeWhile isBlank ++ (trim cs ++ tail) = cs := by
  refine ⟨(trimFront cs).rtakeWhile isBlank, fun c hc => List.mem_rtakeWhile_imp hc, ?_⟩
  rw [trim, trimBack_eq_rdropWhile, List.rdropWhile_append_rtakeWhile, trimFront,
    List.takeWhile_append_dropWhile]

/-- Trimming takes nothing off a bare text. -/
theorem trim_eq_self {cs : List Char} (h : Bare cs) : trim cs = cs := by
  have hfront : trimFront cs = cs := by
    rw [trimFront, List.dropWhile_eq_self_iff]
    intro hpos
    have hhead := h.head cs[0] (by simp [List.head?_eq_getElem?])
    simp [hhead]
  rw [trim, hfront, trimBack_eq_rdropWhile, List.rdropWhile_eq_self_iff]
  intro hne
  have hlast := h.last _ (List.getLast_mem_getLast? hne)
  simp [hlast]

/-- Blanks behind a text are taken off with its own. -/
theorem trim_append_of_isBlank {blanks : List Char} (h : ∀ c ∈ blanks, isBlank c = true)
    (cs : List Char) : trim (cs ++ blanks) = trim cs := by
  have hback : ∀ ds : List Char, trimBack (ds ++ blanks) = trimBack ds := by
    intro ds
    rw [trimBack, trimBack, List.reverse_append, List.dropWhile_append_of_pos]
    exact fun c hc => h c (List.mem_reverse.1 hc)
  by_cases hcs : ∀ c ∈ cs, isBlank c = true
  · have hall : ∀ c ∈ cs ++ blanks, isBlank c = true := by
      simpa only [List.forall_mem_append] using ⟨hcs, h⟩
    rw [trim, trim, trimFront, trimFront, List.dropWhile_eq_nil_iff.2 hall,
      List.dropWhile_eq_nil_iff.2 hcs]
  · have hfront : trimFront (cs ++ blanks) = trimFront cs ++ blanks := by
      have hne : (cs.dropWhile isBlank).isEmpty = false := by simpa using hcs
      rw [trimFront, trimFront, List.dropWhile_append, hne]
      rfl
    rw [trim, trim, hfront, hback]

/-! ## Visible characters -/

/-- The characters that are no blanks. -/
def visible (cs : List Char) : List Char := cs.filter (!isBlank ·)

theorem visible_append (cs ds : List Char) : visible (cs ++ ds) = visible cs ++ visible ds :=
  List.filter_append ..

theorem visible_of_isBlank {cs : List Char} (h : ∀ c ∈ cs, isBlank c = true) : visible cs = [] := by
  simpa [visible, List.filter_eq_nil_iff] using h

theorem visible_trim (cs : List Char) : visible (trim cs) = visible cs := by
  obtain ⟨tail, htail, hcut⟩ := exists_blanks_trim cs
  have hfront : visible (cs.takeWhile isBlank) = [] :=
    visible_of_isBlank fun c hc => List.mem_takeWhile_imp hc
  conv_rhs => rw [← hcut, visible_append, visible_append, hfront, visible_of_isBlank htail]
  simp

theorem visible_intercalate (lines : List (List Char)) :
    visible (['\n'].intercalate lines) = lines.flatMap visible := by
  have hnewline : visible ['\n'] = [] := visible_of_isBlank (by simp [isBlank_newline])
  induction lines with
  | nil => rfl
  | cons line lines ih =>
    cases lines with
    | nil => simp
    | cons next lines =>
      rw [List.intercalate_cons_cons, visible_append, visible_append, hnewline, ih, List.append_nil,
        ← List.flatMap_cons]

/-! ## Lines -/

/-- No part of a text that is split at a character holds it. -/
theorem notMem_of_mem_splitOn {c : Char} {cs line : List Char} (h : line ∈ cs.splitOn c) :
    c ∉ line := by
  induction cs generalizing line with
  | nil =>
    obtain rfl : line = [] := by simpa using h
    exact List.not_mem_nil
  | cons d cs ih =>
    rw [List.splitOn_cons_eq_if_modifyHead] at h
    split at h
    · rcases List.mem_cons.1 h with rfl | h
      · exact List.not_mem_nil
      · exact ih h
    · rename_i hd
      cases hparts : cs.splitOn c with
      | nil => exact absurd hparts (List.splitOn_ne_nil c cs)
      | cons first others =>
        rw [hparts] at h
        rcases List.mem_cons.1 h with rfl | h
        · have hfirst := ih (hparts ▸ List.mem_cons_self)
          simpa [hfirst, @eq_comm _ c] using hd
        · exact ih (hparts ▸ List.mem_cons_of_mem first h)

theorem trim_dropReturn (line : List Char) : trim (dropReturn line) = trim line := by
  rw [dropReturn]
  split
  · rename_i hreturn
    conv_rhs => rw [← List.dropLast_append_getLast? _ hreturn]
    exact (trim_append_of_isBlank (List.forall_mem_singleton.2 (by decide)) _).symm
  · rfl

/-- The entries may be taken from all that stands between newlines: a carriage return before one is
trimmed off with the other blanks, and nothing but blanks makes no entry. -/
theorem entries_eq (cs : List Char) :
    entries cs = ((cs.splitOn '\n').map trim).filter (· ≠ []) := by
  obtain ⟨pieces, last, hpieces⟩ : ∃ pieces last, cs.splitOn '\n' = pieces ++ [last] :=
    (List.eq_nil_or_concat' _).resolve_left (List.splitOn_ne_nil '\n' cs)
  have htrim : (pieces.map dropReturn).map trim = pieces.map trim := by
    rw [List.map_map]
    exact List.map_congr_left fun line _ => trim_dropReturn line
  rw [entries, lines, hpieces, List.dropLast_concat, List.getLast?_concat, List.map_append,
    List.map_append, List.filter_append, List.filter_append, htrim]
  cases last <;> rfl

/-- Lines that are ended one by one are found again wherever a line could end. -/
theorem splitOnP_join {p : Char → Bool} (hp : p '\n' = true) {lines : List String}
    (h : ∀ line ∈ lines, ∀ c ∈ line.toList, p c = false) :
    (String.join (lines.map (· ++ "\n"))).toList.splitOnP p = lines.map String.toList ++ [[]] := by
  induction lines with
  | nil => rfl
  | cons line lines ih =>
    have hline : line.toList.splitOnP p = [line.toList] :=
      List.splitOnP_eq_singleton (h line List.mem_cons_self)
    have htext : (String.join ((line :: lines).map (· ++ "\n"))).toList =
        line.toList ++ '\n' :: (String.join (lines.map (· ++ "\n"))).toList := by
      simp [String.toList_join]
    rw [htext, List.splitOnP_append_cons _ _ hp, hline,
      ih fun line hmem => h line (List.mem_cons_of_mem _ hmem)]
    rfl

/-- The text can be an entry of a batch. -/
structure IsEntry (cs : List Char) : Prop where
  ne_nil : cs ≠ []
  newline : '\n' ∉ cs
  bare : Bare cs

instance : DecidablePred IsEntry := fun cs =>
  decidable_of_iff (cs ≠ [] ∧ '\n' ∉ cs ∧ Bare cs)
    ⟨fun ⟨ne_nil, newline, bare⟩ => ⟨ne_nil, newline, bare⟩,
      fun h => ⟨h.ne_nil, h.newline, h.bare⟩⟩

theorem isEntry_of_mem_entries {cs entry : List Char} (h : entry ∈ entries cs) :
    IsEntry entry := by
  rw [entries_eq] at h
  obtain ⟨hmem, hne⟩ := List.mem_filter.1 h
  obtain ⟨line, hline, rfl⟩ := List.mem_map.1 hmem
  refine ⟨by simpa using hne, fun hnewline => ?_, bare_trim line⟩
  obtain ⟨tail, -, hcut⟩ := exists_blanks_trim line
  apply notMem_of_mem_splitOn hline
  rw [← hcut]
  simp [hnewline]

/-- No character but blanks is lost. -/
theorem visible_entries (cs : List Char) : visible (entries cs).flatten = visible cs := by
  have hlines : ∀ lines : List (List Char),
      visible ((lines.map trim).filter (· ≠ [])).flatten = lines.flatMap visible := by
    intro lines
    induction lines with
    | nil => rfl
    | cons line lines ih =>
      rw [List.flatMap_cons, ← ih, ← visible_trim line, ← visible_append, List.map_cons,
        List.filter_cons]
      split
      · rfl
      · rename_i hnil
        have hnil : trim line = [] := by simpa using hnil
        rw [hnil, List.nil_append]
  rw [entries_eq, hlines, ← visible_intercalate, List.intercalate_splitOn]

/-! ## Entries on lines -/

/-- Texts with a newline between them have the entries of the one, and then those of the other. -/
theorem entries_append_newline (before after : List Char) :
    entries (before ++ '\n' :: after) = entries before ++ entries after := by
  rw [entries_eq, List.splitOn_append_cons_self, List.map_append, List.filter_append, ← entries_eq,
    ← entries_eq]

/-- What a line ends with. -/
def lineEnds : List (List Char) := [['\n'], ['\r', '\n']]

/-- A line holds the entry that stands on it, or none if all that stands on it is blank. -/
inductive Line : List (List Char) → List Char → Prop
  | entry (text : List Char) : Line [text] text
  | blank {blanks : List Char} (hblank : ∀ c ∈ blanks, isBlank c = true)
      (hnewline : '\n' ∉ blanks) : Line [] blanks

/-- The entries stand in the text in this order, one on a line.  The last line may do without an
end. -/
inductive OnLines : List (List Char) → List Char → Prop
  | last {found : List (List Char)} {line : List Char} (h : Line found line) : OnLines found line
  | line {found others : List (List Char)} {line ending rest : List Char} (h : Line found line)
      (hending : ending ∈ lineEnds) (hrest : OnLines others rest) :
      OnLines (found ++ others) (line ++ (ending ++ rest))

theorem entries_of_notMem {line : List Char} (h : '\n' ∉ line) :
    entries line = [trim line].filter (· ≠ []) := by
  rw [entries_eq, List.splitOn_eq_singleton h]
  rfl

theorem entries_line {found : List (List Char)} {line blanks : List Char} (h : Line found line)
    (hentry : ∀ cs ∈ found, IsEntry cs) (hblank : ∀ c ∈ blanks, isBlank c = true)
    (hnewline : '\n' ∉ blanks) : entries (line ++ blanks) = found := by
  cases h with
  | entry =>
    have hline := hentry line List.mem_cons_self
    have hnot : '\n' ∉ line ++ blanks := by simp [hline.newline, hnewline]
    rw [entries_of_notMem hnot, trim_append_of_isBlank hblank, trim_eq_self hline.bare]
    simp [hline.ne_nil]
  | blank hline hnot =>
    have hnot : '\n' ∉ line ++ blanks := by simp [hnot, hnewline]
    have htrim : trim line = [] := by
      rw [← List.nil_append line, trim_append_of_isBlank hline]
      rfl
    rw [entries_of_notMem hnot, trim_append_of_isBlank hblank, htrim]
    rfl

/-- The entries that stand on the lines of a text are the entries of the text. -/
theorem entries_of_onLines {texts : List (List Char)} {cs : List Char} (h : OnLines texts cs)
    (hentry : ∀ text ∈ texts, IsEntry text) : entries cs = texts := by
  induction h with
  | last hline =>
    have hlast := @entries_line _ _ [] hline hentry (by simp) (by simp)
    rwa [List.append_nil] at hlast
  | @line found others line ending rest hline hending _ ih =>
    obtain ⟨hfound, hothers⟩ := List.forall_mem_append.1 hentry
    obtain ⟨blanks, rfl, hblank, hnewline⟩ : ∃ blanks, ending = blanks ++ ['\n'] ∧
        (∀ c ∈ blanks, isBlank c = true) ∧ '\n' ∉ blanks := by
      rcases List.mem_pair.1 hending with rfl | rfl
      · exact ⟨[], rfl, by simp, by simp⟩
      · exact ⟨['\r'], rfl, List.forall_mem_singleton.2 (by decide), by decide⟩
    rw [List.append_assoc, List.singleton_append, ← List.append_assoc, entries_append_newline,
      entries_line hline hfound hblank hnewline, ih hothers]

theorem onLines_intercalate (texts : List (List Char)) :
    OnLines texts (['\n'].intercalate texts) := by
  induction texts with
  | nil => exact .last (.blank (by simp) (by simp))
  | cons text texts ih =>
    cases texts with
    | nil => simpa using OnLines.last (.entry text)
    | cons next texts =>
      rw [List.intercalate_cons_cons, List.append_assoc]
      exact .line (.entry text) (by decide) ih

end SelectLang.Text

import SelectLang.Proofs.Rendering.Operands
import SelectLang.Proofs.Statement.Image
import SelectLang.Query.Outline

/-!
# What a drawn query shows

Nothing of a parsed query is lost when it is drawn, but for its semicolon (`draw_faithful`).  A
string may hold newlines, and then it may look like further lines of the tree or like further
clauses.  It does not mislead a reader who goes from the left to the right: each part of the query
shows where it ends before a look at what follows (`Legible`), a string by its closing quote, a name
or a keyword by the blank, the comma or the newline after it, and a clause by the heading of the
next.
-/

namespace SelectLang

open Text

/-! ## Legible texts -/

/-- Before any text with the property `after`, what is written of a value with the property `P`
shows which one it is and where it ends. -/
def Legible {α : Type} (P : α → Prop) (after : List Char → Prop) (write : α → List Char) : Prop :=
  ∀ ⦃a b : α⦄, P a → P b → ∀ ⦃rest rest' : List Char⦄, after rest → after rest' →
    write a ++ rest = write b ++ rest' → a = b ∧ rest = rest'

/-- A lexeme that nothing makes longer shows its kind, its text, and where it ends. -/
theorem isLexeme_append_injective {quotes : QuoteStyle} {spelling spelling' rest rest' : List Char}
    {kind kind' : Kind} {text text' : String} (h : IsLexeme quotes spelling kind text)
    (h' : IsLexeme quotes spelling' kind' text') (hstop : ¬ RunsOn kind spelling rest)
    (hstop' : ¬ RunsOn kind' spelling' rest') (heq : spelling ++ rest = spelling' ++ rest') :
    kind = kind' ∧ text = text' ∧ rest = rest' := by
  have hscan := scan?_append h hstop
  rw [heq, scan?_append h' hstop', Option.some.injEq, Scan.mk.injEq, Piece.lexeme.injEq] at hscan
  obtain ⟨⟨hkind, htext⟩, -, hrest⟩ := hscan
  exact ⟨hkind.symm, htext.symm, hrest.symm⟩

/-- The text is at its end or goes on with a character that has the property. -/
def Next (p : Char → Prop) (rest : List Char) : Prop := ∀ c ∈ rest.head?, p c

@[simp] theorem next_nil (p : Char → Prop) : Next p [] := by simp [Next]

@[simp] theorem next_cons {p : Char → Prop} {c : Char} {rest : List Char} :
    Next p (c :: rest) ↔ p c := by
  simp [Next]

theorem Next.mono {p p' : Char → Prop} {rest : List Char} (h : Next p rest)
    (hp : ∀ c, p c → p' c) : Next p' rest := fun c hc => hp c (h c hc)

/-- The text goes on with a blank. -/
abbrev BlankNext : List Char → Prop := Next fun c => isBlank c = true

/-- The text goes on with nothing that belongs to a word. -/
abbrev WordEnds : List Char → Prop := Next fun c => continuesWord c = false

/-- The line ends here. -/
abbrev LineEnds : List Char → Prop := Next (· = '\n')

theorem blankNext_space (rest : List Char) : BlankNext (' ' :: rest) :=
  next_cons.2 isBlank_space

theorem blankNext_newline (rest : List Char) : BlankNext ('\n' :: rest) :=
  next_cons.2 isBlank_newline

theorem Next.wordEnds {rest : List Char} (h : BlankNext rest) : WordEnds rest :=
  h.mono fun _ => continuesWord_eq_false_of_isBlank

theorem Next.blankNext {rest : List Char} (h : LineEnds rest) : BlankNext rest := by
  refine h.mono ?_
  rintro c rfl
  exact isBlank_newline

theorem not_runsOn_of_wordEnds {kind : Kind} {spelling rest : List Char} (hkind : kind.IsOfWord)
    (h : WordEnds rest) : ¬ RunsOn kind spelling rest := by
  cases kind with
  | keyword k => simpa [RunsOn, Next] using h
  | identifier => simpa [RunsOn, Next] using h
  | _ => cases hkind

/-! ## Names and comparisons -/

theorem isLexeme_keyword (k : Keyword) :
    IsLexeme .both k.spelling.toList (.keyword k) k.spelling :=
  .keyword k (isWord_spelling k) rfl

theorem legible_name :
    Legible (fun name : String => IsName name.toList) WordEnds String.toList := by
  intro name name' h h' rest rest' hrest hrest' heq
  obtain ⟨-, htext, hrest⟩ := isLexeme_append_injective
    (@isLexeme_identifier_iff .both _ name |>.2 ⟨rfl, h⟩) (isLexeme_identifier_iff.2 ⟨rfl, h'⟩)
    (not_runsOn_of_wordEnds trivial hrest) (not_runsOn_of_wordEnds trivial hrest') heq
  exact ⟨htext, hrest⟩

theorem legible_keyword :
    Legible (fun _ : Keyword => True) WordEnds fun k => k.spelling.toList := by
  intro k k' _ _ rest rest' hrest hrest' heq
  obtain ⟨hkind, -, hrest⟩ := isLexeme_append_injective (isLexeme_keyword k) (isLexeme_keyword k')
    (not_runsOn_of_wordEnds trivial hrest) (not_runsOn_of_wordEnds trivial hrest') heq
  exact ⟨Kind.keyword.inj hkind, hrest⟩

theorem legible_comparator :
    Legible (fun _ : Comparator => True) BlankNext fun op => op.symbol.toList := by
  intro op op' _ _ rest rest' hrest hrest' heq
  have hsymbol : ∀ op : Comparator,
      IsLexeme .both op.symbol.toList (.comparator op) op.symbol := by
    intro op
    exact .symbol (isSymbol_symbol op)
  obtain ⟨hkind, -, hrest⟩ := isLexeme_append_injective (hsymbol op) (hsymbol op')
    (not_runsOn_of_isBlank hrest) (not_runsOn_of_isBlank hrest') heq
  exact ⟨Kind.comparator.inj hkind, hrest⟩

theorem Operand.eq_of_kind_of_text {operand operand' : Operand}
    (hkind : operand.kind = operand'.kind) (htext : operand.text = operand'.text) :
    operand = operand' := by
  cases operand <;> cases operand' <;> simp_all [Operand.kind, Operand.text]

theorem Operand.Spellable.isPlain {operand : Operand} (h : operand.Spellable .both) :
    operand.IsPlain .both := by
  cases operand with
  | column name => exact h
  | number text => exact h
  | string content =>
    obtain ⟨quote, hquote, hcontent⟩ := h
    refine ⟨?_, fun hboth => ?_⟩
    · rcases quoteFor_eq content with hc | hc <;> rw [hc] <;> rfl
    · exact quoteFor_notMem hquote hcontent ((Operand.quoteFor_mem_iff content).2 hboth)

theorem legible_operand :
    Legible (Operand.Spellable .both) BlankNext fun operand => operand.render.toList := by
  intro operand operand' h h' rest rest' hrest hrest' heq
  obtain ⟨hkind, htext, hrest⟩ := isLexeme_append_injective
    (operand.isLexeme_render_iff.2 h.isPlain) (operand'.isLexeme_render_iff.2 h'.isPlain)
    (not_runsOn_of_isBlank hrest) (not_runsOn_of_isBlank hrest') heq
  exact ⟨Operand.eq_of_kind_of_text hkind htext, hrest⟩

theorem toList_render_comparison (c : Comparison) :
    c.render.toList =
      c.column.toList ++ ' ' :: (c.op.symbol.toList ++ ' ' :: c.operand.render.toList) := by
  simp [Comparison.render]

theorem legible_comparison :
    Legible (Comparison.Spellable .both) BlankNext fun c => c.render.toList := by
  intro c c' h h' rest rest' hrest hrest' heq
  simp only [toList_render_comparison, List.append_assoc, List.cons_append] at heq
  obtain ⟨hcolumn, heq⟩ := legible_name h.column h'.column (blankNext_space _).wordEnds
    (blankNext_space _).wordEnds heq
  obtain ⟨hop, heq⟩ := legible_comparator trivial trivial (blankNext_space _) (blankNext_space _)
    (List.cons.inj heq).2
  obtain ⟨hoperand, hrest⟩ := legible_operand h.operand h'.operand hrest hrest'
    (List.cons.inj heq).2
  obtain ⟨column, op, operand⟩ := c
  obtain ⟨column', op', operand'⟩ := c'
  obtain rfl : column = column' := hcolumn
  obtain rfl : op = op' := hop
  obtain rfl : operand = operand' := hoperand
  exact ⟨rfl, hrest⟩

/-! ## Drawn conditions -/

@[simp] theorem toList_endLines_nil : (endLines []).toList = [] := rfl

@[simp] theorem toList_endLines_cons (line : String) (lines : List String) :
    (endLines (line :: lines)).toList = line.toList ++ '\n' :: (endLines lines).toList := by
  simp [endLines]

@[simp] theorem toList_endLines_append (lines lines' : List String) :
    (endLines (lines ++ lines')).toList = (endLines lines).toList ++ (endLines lines').toList := by
  simp [endLines]

theorem toList_draw_leaf (depth : Nat) (c : Comparison) :
    ((Condition.leaf c).draw depth).toList =
      (indentation depth).toList ++ (c.render.toList ++ ['\n']) := by
  simp [Condition.draw, Condition.outline]

theorem toList_draw_node (depth : Nat) (op : Connective) (left right : Condition) :
    ((Condition.node left op right).draw depth).toList =
      (indentation depth).toList ++ (op.keyword.spelling.toList ++
        '\n' :: ((left.draw (depth + 1)).toList ++ (right.draw (depth + 1)).toList)) := by
  simp [Condition.draw, Condition.outline, Connective.render]

/-- A name is no keyword, so the first word of a line tells a comparison from a connective. -/
theorem comparison_append_ne_connective {c : Comparison} (h : c.Spellable .both) (op : Connective)
    (rest rest' : List Char) :
    c.render.toList ++ rest ≠ op.keyword.spelling.toList ++ '\n' :: rest' := by
  intro heq
  rw [toList_render_comparison, List.append_assoc] at heq
  have hkind := (isLexeme_append_injective (isLexeme_identifier_iff.2 ⟨rfl, h.column⟩)
    (isLexeme_keyword op.keyword)
    (not_runsOn_of_wordEnds trivial (blankNext_space _).wordEnds)
    (not_runsOn_of_wordEnds trivial (blankNext_newline _).wordEnds) heq).1
  cases hkind

theorem legible_condition (depth : Nat) :
    Legible (Condition.Spellable .both) (fun _ => True) fun c => (c.draw depth).toList := by
  intro c c' h h' rest rest' _ _ heq
  -- what follows the left side is the right side, so the induction is over all that may follow
  induction c generalizing c' depth rest rest' with
  | leaf c =>
    have hc := h c (List.mem_singleton_self c)
    cases c' with
    | leaf c' =>
      simp only [toList_draw_leaf, List.append_assoc, List.singleton_append,
        List.append_cancel_left_eq] at heq
      obtain ⟨rfl, hrest⟩ := legible_comparison hc (h' c' (List.mem_singleton_self c'))
        (blankNext_newline _) (blankNext_newline _) heq
      exact ⟨rfl, (List.cons.inj hrest).2⟩
    | node left' op' right' =>
      simp only [toList_draw_leaf, toList_draw_node, List.append_assoc, List.cons_append,
        List.append_cancel_left_eq] at heq
      exact absurd heq (comparison_append_ne_connective hc op' _ _)
  | node left op right ihleft ihright =>
    obtain ⟨hleft, hright⟩ := List.forall_mem_append.1 h
    cases c' with
    | leaf c' =>
      simp only [toList_draw_leaf, toList_draw_node, List.append_assoc, List.cons_append,
        List.append_cancel_left_eq] at heq
      have hc' := h' c' (List.mem_singleton_self c')
      exact absurd heq.symm (comparison_append_ne_connective hc' op _ _)
    | node left' op' right' =>
      obtain ⟨hleft', hright'⟩ := List.forall_mem_append.1 h'
      simp only [toList_draw_node, List.append_assoc, List.cons_append,
        List.append_cancel_left_eq] at heq
      obtain ⟨hop, hsides⟩ := legible_keyword trivial trivial (blankNext_newline _).wordEnds
        (blankNext_newline _).wordEnds heq
      obtain rfl : op = op' := by cases op <;> cases op' <;> trivial
      obtain ⟨rfl, hlast⟩ := ihleft _ hleft hleft' (List.cons.inj hsides).2
      obtain ⟨rfl, hrest⟩ := ihright _ hright hright' hlast
      exact ⟨rfl, hrest⟩

/-! ## Lists -/

section

variable {α : Type} {P : α → Prop} {write : α → List Char}

/-- What follows the first item of a list. -/
def furtherItems (write : α → List Char) (as : List α) : List Char :=
  as.flatMap fun a => ',' :: ' ' :: write a

theorem toList_commaList_cons (item : α → String) (a : α) (as : List α) :
    (commaList ((a :: as).map item)).toList =
      (item a).toList ++ furtherItems (fun b => (item b).toList) as := by
  induction as generalizing a with
  | nil => simp [commaList, furtherItems]
  | cons next as ih =>
    have hnext := ih next
    simp only [List.map_cons] at hnext
    simp [commaList_cons_cons, hnext, furtherItems]

theorem wordEnds_furtherItems (as : List α) {rest : List Char} (hrest : LineEnds rest) :
    WordEnds (furtherItems write as ++ rest) := by
  cases as with
  | nil => exact hrest.blankNext.wordEnds
  | cons a as => exact next_cons.2 (by decide)

theorem legible_furtherItems (h : Legible P WordEnds write) :
    Legible (fun as => ∀ a ∈ as, P a) LineEnds (furtherItems write) := by
  have hcons : ∀ a as rest, furtherItems write (a :: as) ++ rest =
      ',' :: ' ' :: (write a ++ (furtherItems write as ++ rest)) := by
    intro a as rest
    simp [furtherItems]
  -- a line that ends does not go on with a comma
  have hstop : ∀ {rest cs : List Char}, LineEnds rest → rest ≠ ',' :: cs := by
    rintro rest cs hrest rfl
    exact absurd (next_cons.1 hrest) (by decide)
  intro as bs has hbs rest rest' hrest hrest' heq
  induction as generalizing bs with
  | nil =>
    cases bs with
    | nil => exact ⟨rfl, heq⟩
    | cons b bs => exact absurd (heq.trans (hcons b bs rest')) (hstop hrest)
  | cons a as ih =>
    cases bs with
    | nil => exact absurd (heq.symm.trans (hcons a as rest)) (hstop hrest')
    | cons b bs =>
      rw [List.forall_mem_cons] at has hbs
      simp only [hcons, List.cons.injEq, true_and] at heq
      obtain ⟨rfl, hothers⟩ := h has.1 hbs.1 (wordEnds_furtherItems as hrest)
        (wordEnds_furtherItems bs hrest') heq
      obtain ⟨rfl, hrest⟩ := ih has.2 hbs.2 hothers
      exact ⟨rfl, hrest⟩

/-- Items that show where they end can be read off a list of them. -/
theorem legible_commaList {item : α → String}
    (h : Legible P WordEnds fun a => (item a).toList) :
    Legible (fun as => as ≠ [] ∧ ∀ a ∈ as, P a) LineEnds
      fun as => (commaList (as.map item)).toList := by
  rintro as bs ⟨hne, has⟩ ⟨hne', hbs⟩ rest rest' hrest hrest' heq
  obtain ⟨a, as, rfl⟩ := List.exists_cons_of_ne_nil hne
  obtain ⟨b, bs, rfl⟩ := List.exists_cons_of_ne_nil hne'
  rw [List.forall_mem_cons] at has hbs
  simp only [toList_commaList_cons, List.append_assoc] at heq
  obtain ⟨rfl, hothers⟩ := h has.1 hbs.1 (wordEnds_furtherItems as hrest)
    (wordEnds_furtherItems bs hrest') heq
  obtain ⟨rfl, hrest⟩ := legible_furtherItems h has.2 hbs.2 hrest hrest' hothers
  exact ⟨rfl, hrest⟩

end

theorem legible_names : Legible AreNames LineEnds fun names => (commaList names).toList := by
  have hnames : Legible AreNames LineEnds
      fun names => (commaList (names.map fun name => name)).toList := legible_commaList legible_name
  simpa only [List.map_id'] using hnames

/-- No name begins with a star. -/
theorem names_append_ne_star {names : List String} (h : AreNames names) (rest rest' : List Char) :
    (commaList names).toList ++ rest ≠ '*' :: rest' := by
  intro heq
  obtain ⟨hne, hnames⟩ := h
  obtain ⟨name, names, rfl⟩ := List.exists_cons_of_ne_nil hne
  have hhead := (isName_iff.1 (hnames name List.mem_cons_self)).1
  have htext := toList_commaList_cons (fun name => name) name names
  rw [List.map_id'] at htext
  rw [htext, List.append_assoc] at heq
  cases hname : name.toList with
  | nil =>
    rw [hname] at hhead
    cases hhead
  | cons c cs =>
    rw [hname, List.cons_append] at heq
    have hstar : beginsWord c = true := by simpa [hname] using hhead
    rw [(List.cons.inj heq).1] at hstar
    exact absurd hstar (by decide)

theorem legible_projection :
    Legible Projection.Spellable LineEnds fun columns => columns.render.toList := by
  intro columns columns' h h' rest rest' hrest hrest' heq
  cases columns with
  | all =>
    cases columns' with
    | all => exact ⟨rfl, (List.cons.inj heq).2⟩
    | columns names' => exact absurd heq.symm (names_append_ne_star h' _ _)
  | columns names =>
    cases columns' with
    | all => exact absurd heq (names_append_ne_star h _ _)
    | columns names' =>
      obtain ⟨rfl, hrest⟩ := legible_names h h' hrest hrest' heq
      exact ⟨rfl, hrest⟩

theorem legible_sortKey :
    Legible (fun key : SortKey => IsName key.column.toList) WordEnds
      fun key => key.render.toList := by
  rintro ⟨column, direction⟩ ⟨column', direction'⟩ h h' rest rest' hrest hrest' heq
  simp only [SortKey.render, String.toList_append, List.append_assoc] at heq
  obtain ⟨rfl, hdirection⟩ := legible_name h h' (blankNext_space _).wordEnds
    (blankNext_space _).wordEnds heq
  obtain ⟨hkeyword, hrest⟩ := legible_keyword trivial trivial hrest hrest'
    (List.cons.inj hdirection).2
  obtain rfl : direction = direction' := by
    cases direction <;> cases direction' <;> trivial
  exact ⟨rfl, hrest⟩

/-! ## Clauses -/

section

variable {α : Type} [DecidableEq α] {P : α → Prop} {write : α → List Char}

/-- A clause with its heading, left out for the value that stands for none. -/
def clause (heading : String) (absent : α) (write : α → List Char) (a : α) : List Char :=
  if a = absent then [] else heading.toList ++ write a

variable {heading : String} {absent : α} {first : Char} {others : List Char}

theorem next_clause (hfirst : heading.toList.head? = some first) (a : α) {rest : List Char}
    (hrest : Next (· ∈ others) rest) :
    Next (· ∈ first :: others) (clause heading absent write a ++ rest) := by
  rw [clause]
  split
  · exact hrest.mono fun c hc => List.mem_cons_of_mem _ hc
  · intro c hc
    rw [List.append_assoc, List.head?_append, hfirst, Option.some_or] at hc
    rw [← Option.some.inj hc]
    exact List.mem_cons_self

/-- Where what follows begins unlike the heading, it shows whether there is a clause. -/
theorem legible_clause (hfirst : heading.toList.head? = some first) (hothers : first ∉ others)
    (h : Legible (fun a => P a ∧ a ≠ absent) (Next (· ∈ others)) write) :
    Legible P (Next (· ∈ others)) (clause heading absent write) := by
  have hmixed : ∀ {rest cs : List Char}, Next (· ∈ others) rest →
      rest ≠ heading.toList ++ cs := by
    rintro rest cs hrest rfl
    refine hothers (hrest first ?_)
    rw [List.head?_append, hfirst, Option.some_or]
    rfl
  intro a b ha hb rest rest' hrest hrest' heq
  by_cases hnone : a = absent
  · by_cases hnone' : b = absent
    · rw [clause, clause, if_pos hnone, if_pos hnone'] at heq
      exact ⟨hnone.trans hnone'.symm, heq⟩
    · rw [clause, clause, if_pos hnone, if_neg hnone', List.append_assoc] at heq
      exact absurd heq (hmixed hrest)
  · by_cases hnone' : b = absent
    · rw [clause, clause, if_neg hnone, if_pos hnone', List.append_assoc] at heq
      exact absurd heq.symm (hmixed hrest')
    · rw [clause, clause, if_neg hnone, if_neg hnone', List.append_assoc, List.append_assoc,
        List.append_cancel_left_eq] at heq
      exact h ⟨ha, hnone⟩ ⟨hb, hnone'⟩ hrest hrest' heq

end

/-- The drawn tree under its heading. -/
def restriction (heading : String) : Option Condition → List Char :=
  clause heading none fun c => (c.elim "" (Condition.draw 1)).toList

/-- The line of the groups, and the restriction of them. -/
def groupsClause : List String × Option Condition → List Char :=
  clause "GROUP BY " ([], none) fun groups =>
    (commaList groups.1).toList ++ '\n' :: restriction "HAVING\n" groups.2

/-- The line of the sort keys. -/
def orderingClause : List SortKey → List Char :=
  clause "ORDER BY " [] fun keys => (commaList (keys.map SortKey.render)).toList ++ ['\n']

theorem legible_restriction {heading : String} {first : Char} {others : List Char}
    (hfirst : heading.toList.head? = some first) (hothers : first ∉ others) :
    Legible (fun c => ∀ d ∈ c, Condition.Spellable .both d) (Next (· ∈ others))
      (restriction heading) := by
  refine legible_clause hfirst hothers ?_
  rintro c c' ⟨hc, hne⟩ ⟨hc', hne'⟩ rest rest' - - heq
  obtain ⟨d, rfl⟩ := Option.ne_none_iff_exists'.1 hne
  obtain ⟨d', rfl⟩ := Option.ne_none_iff_exists'.1 hne'
  obtain ⟨rfl, hrest⟩ := legible_condition 1 (hc d rfl) (hc' d' rfl) trivial trivial heq
  exact ⟨rfl, hrest⟩

theorem legible_groupsClause :
    Legible
      (fun groups => (∀ name ∈ groups.1, IsName name.toList) ∧
        (∀ c ∈ groups.2, Condition.Spellable .both c) ∧ (groups.1 = [] → groups.2 = none))
      (Next (· ∈ ['O'])) groupsClause := by
  refine legible_clause rfl (by decide) ?_
  rintro ⟨names, having⟩ ⟨names', having'⟩ ⟨⟨hnames, hhaving, hnone⟩, hne⟩
    ⟨⟨hnames', hhaving', hnone'⟩, hne'⟩ rest rest' hrest hrest' heq
  have hnil : names ≠ [] := by
    rintro rfl
    exact hne (Prod.ext rfl (hnone rfl))
  have hnil' : names' ≠ [] := by
    rintro rfl
    exact hne' (Prod.ext rfl (hnone' rfl))
  simp only [List.append_assoc, List.cons_append] at heq
  obtain ⟨rfl, hline⟩ := legible_names ⟨hnil, hnames⟩ ⟨hnil', hnames'⟩ (next_cons.2 rfl)
    (next_cons.2 rfl) heq
  obtain ⟨rfl, hrest⟩ := legible_restriction rfl (by decide) hhaving
    hhaving' hrest hrest' (List.cons.inj hline).2
  exact ⟨rfl, hrest⟩

theorem legible_orderingClause :
    Legible (fun keys => ∀ key ∈ keys, IsName key.column.toList) (Next (· ∈ []))
      orderingClause := by
  refine legible_clause rfl (by decide) ?_
  rintro keys keys' ⟨hkeys, hne⟩ ⟨hkeys', hne'⟩ rest rest' - - heq
  simp only [List.append_assoc, List.singleton_append] at heq
  obtain ⟨rfl, hline⟩ := legible_commaList legible_sortKey ⟨hne, hkeys⟩ ⟨hne', hkeys'⟩
    (next_cons.2 rfl) (next_cons.2 rfl) heq
  exact ⟨rfl, (List.cons.inj hline).2⟩

theorem next_orderingClause (keys : List SortKey) : Next (· ∈ ['O']) (orderingClause keys) := by
  have hnext : Next (· ∈ ['O']) (orderingClause keys ++ []) :=
    next_clause (by decide) keys (next_nil _)
  rwa [List.append_nil] at hnext

theorem next_groupsClause (groups : List String × Option Condition) (keys : List SortKey) :
    Next (· ∈ ['G', 'O']) (groupsClause groups ++ orderingClause keys) :=
  next_clause (by decide) groups (next_orderingClause keys)

/-! ## Queries -/

namespace Query

/-- The query without its semicolon. -/
def unterminated (q : Query) : Query := { q with terminated := false }

theorem draw_unterminated (q : Query) : q.unterminated.draw = q.draw := rfl

variable {q q' : Query}

theorem toList_endLines_restriction (heading : String) (c : Option Condition) :
    (endLines (c.elim [] fun d => heading :: d.outline 1)).toList =
      restriction (heading ++ "\n") c := by
  cases c with
  | none => rfl
  | some d => simp [restriction, clause, Condition.draw]

theorem toList_endLines_groups {names : List String} {having : Option Condition}
    (h : names = [] → having = none) :
    (endLines (if names.isEmpty then [] else ("GROUP BY " ++ commaList names) ::
      having.elim [] fun c => "HAVING" :: c.outline 1)).toList = groupsClause (names, having) := by
  rw [groupsClause, clause]
  by_cases hnil : names = []
  · rw [if_pos (List.isEmpty_iff.2 hnil), if_pos (Prod.ext hnil (h hnil)), toList_endLines_nil]
  · rw [if_neg (mt List.isEmpty_iff.1 hnil), if_neg (mt (congrArg Prod.fst) hnil),
      toList_endLines_cons, toList_endLines_restriction, String.toList_append, List.append_assoc]
    rfl

theorem toList_endLines_ordering (keys : List SortKey) :
    (endLines (if keys.isEmpty then [] else
      ["ORDER BY " ++ commaList (keys.map SortKey.render)])).toList = orderingClause keys := by
  rw [orderingClause, clause]
  by_cases hnil : keys = []
  · rw [if_pos (List.isEmpty_iff.2 hnil), if_pos hnil, toList_endLines_nil]
  · rw [if_neg (mt List.isEmpty_iff.1 hnil), if_neg hnil, toList_endLines_cons,
      toList_endLines_nil, String.toList_append, List.append_assoc]

/-- A drawn query is its clauses one after the other, if it restricts groups only where it forms
some. -/
theorem toList_draw (h : q.grouping = [] → q.having = none) :
    q.draw.toList =
      "SELECT ".toList ++ (q.columns.render.toList ++ '\n' ::
        ("FROM ".toList ++ ((commaList q.tables).toList ++ '\n' ::
          (restriction "WHERE\n" q.filter ++
            (groupsClause (q.grouping, q.having) ++ orderingClause q.ordering))))) := by
  have houtline : q.outline = ["SELECT " ++ q.columns.render, "FROM " ++ commaList q.tables] ++
      (q.filter.elim [] fun c => "WHERE" :: c.outline 1) ++
      (if q.grouping.isEmpty then [] else ("GROUP BY " ++ commaList q.grouping) ::
        q.having.elim [] fun c => "HAVING" :: c.outline 1) ++
      (if q.ordering.isEmpty then [] else
        ["ORDER BY " ++ commaList (q.ordering.map SortKey.render)]) := by
    rw [outline]
    cases q.filter <;> cases q.having <;> rfl
  rw [draw, houtline, toList_endLines_append, toList_endLines_append, toList_endLines_append,
    toList_endLines_restriction, toList_endLines_groups h, toList_endLines_ordering]
  simp only [toList_endLines_cons, toList_endLines_nil, String.toList_append, List.append_assoc,
    List.cons_append, List.nil_append]
  rfl

/-- Two queries that can be written are drawn alike only if they differ in nothing but the
semicolon. -/
theorem unterminated_eq_of_draw_eq (h : q.Spellable .both) (h' : q'.Spellable .both)
    (hgroups : q.grouping = [] → q.having = none) (hgroups' : q'.grouping = [] → q'.having = none)
    (heq : q.draw = q'.draw) : q.unterminated = q'.unterminated := by
  have htext := congrArg String.toList heq
  rw [toList_draw hgroups, toList_draw hgroups', List.append_cancel_left_eq] at htext
  obtain ⟨hcolumns, htext⟩ := legible_projection h.columns h'.columns (next_cons.2 rfl)
    (next_cons.2 rfl) htext
  rw [List.cons.injEq, List.append_cancel_left_eq] at htext
  obtain ⟨htables, htext⟩ := legible_names h.tables h'.tables (next_cons.2 rfl) (next_cons.2 rfl)
    htext.2
  obtain ⟨hfilter, htext⟩ := legible_restriction rfl (by decide) h.filter
    h'.filter (next_groupsClause _ _) (next_groupsClause _ _) (List.cons.inj htext).2
  obtain ⟨hgrouping, htext⟩ := legible_groupsClause ⟨h.grouping, h.having, hgroups⟩
    ⟨h'.grouping, h'.having, hgroups'⟩ (next_orderingClause _) (next_orderingClause _) htext
  obtain ⟨hordering, -⟩ := legible_orderingClause h.ordering h'.ordering (next_nil _) (next_nil _)
    (congrArg (· ++ []) htext)
  obtain ⟨hnames, hhaving⟩ := Prod.mk.inj hgrouping
  rw [unterminated, unterminated, hcolumns, htables, hfilter, hnames, hhaving, hordering]

/-- A parsed query can be written, and it restricts groups only where it forms some. -/
theorem spellable_of_parse {dialect : Dialect} {source : String}
    (h : Query.parse dialect source = .ok q) :
    q.Spellable .both ∧ (q.grouping = [] → q.having = none) := by
  obtain ⟨derivation, hlexemes, rfl⟩ := exists_derivation_of_parse h
  obtain ⟨hspellable, hregular, -⟩ := (spells_query dialect.terminatorRequired).sound hlexemes
  exact ⟨hspellable.both, hregular.grouping⟩

end Query

/-- A drawn query shows all of the query but the semicolon: what differs in nothing else is drawn
alike, and what is drawn alike, if it was parsed from some text, differs in nothing else. -/
theorem draw_faithful :
    (∀ q q' : Query, q.unterminated = q'.unterminated → q.draw = q'.draw) ∧
      ∀ q q' : Query, (∃ dialect source, Query.parse dialect source = .ok q) →
        (∃ dialect source, Query.parse dialect source = .ok q') →
          q.draw = q'.draw → q.unterminated = q'.unterminated := by
  constructor
  · intro q q' heq
    rw [← q.draw_unterminated, heq, q'.draw_unterminated]
  · rintro q q' ⟨dialect, source, h⟩ ⟨dialect', source', h'⟩ heq
    obtain ⟨hspellable, hgroups⟩ := Query.spellable_of_parse h
    obtain ⟨hspellable', hgroups'⟩ := Query.spellable_of_parse h'
    exact Query.unterminated_eq_of_draw_eq hspellable hspellable' hgroups hgroups' heq

/-- A string may hold the heading of a clause. -/
theorem draw_faithful_order_in_string :
    let q : Query :=
      { columns := .columns ["a"], tables := ["t"],
        filter := some (.leaf ⟨"b", .eq, .string "1\nORDER BY a ASC"⟩) }
    let q' : Query := { q with terminated := true }
    Query.parse .lenient "SELECT a FROM t WHERE b = '1\nORDER BY a ASC'" = .ok q ∧
      Query.parse .strict "select a from t where b = \"1\nORDER BY a ASC\";" = .ok q' ∧
      q.draw = "SELECT a\nFROM t\nWHERE\n  b = '1\nORDER BY a ASC'\n" ∧
      q.draw = q'.draw ∧ q.unterminated = q'.unterminated := by
  intro q q'
  have hparse : Query.parse .lenient "SELECT a FROM t WHERE b = '1\nORDER BY a ASC'" = .ok q := by
    decide +kernel
  have hparse' :
      Query.parse .strict "select a from t where b = \"1\nORDER BY a ASC\";" = .ok q' := by
    decide +kernel
  have hdraw : q.draw = q'.draw := rfl
  exact ⟨hparse, hparse', by decide +kernel, hdraw,
    draw_faithful.2 q q' ⟨_, _, hparse⟩ ⟨_, _, hparse'⟩ hdraw⟩

end SelectLang

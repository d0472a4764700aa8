import SelectLang.Proofs.Lexical.Scan
import SelectLang.Proofs.Query.Grouping

/-!
# Queries that can be written

A query built by hand may hold texts that no statement can spell: a name that is a keyword or no
word at all, a number with a sign, a string with quotes of every sort.  It may also lack what no
statement lacks, or be grouped in a way that no reader groups.  `Query.Spellable` says of the texts
and the lists of a query, and `Query.Regular` of its shape, that they are not like that.
-/

namespace SelectLang

variable {quotes : QuoteStyle}

/-! ## Texts -/

/-- A word that is no keyword, the case of ASCII letters aside. -/
def IsName (cs : List Char) : Prop :=
  IsWord cs ∧ ∀ k : Keyword, ¬ SameIgnoringCase cs k.spelling.toList

theorem isName_iff {cs : List Char} :
    IsName cs ↔ cs.head?.any beginsWord = true ∧ cs.all continuesWord = true ∧
      Keyword.ofWord? cs = none := by
  have hword : IsWord cs ↔ cs.head?.any beginsWord = true ∧ cs.all continuesWord = true := by
    rw [isWord_iff]
    cases cs with
    | nil => simp
    | cons c cs => simp +contextual [continuesWord_of_beginsWord]
  have hname : (∀ k : Keyword, ¬ SameIgnoringCase cs k.spelling.toList) ↔
      Keyword.ofWord? cs = none := by
    simp only [← ofWord?_eq_some_iff_sameIgnoringCase, Option.eq_none_iff_forall_ne_some, ne_eq]
  rw [IsName, hword, hname, and_assoc]

instance : DecidablePred IsName := fun _ => decidable_of_iff' _ isName_iff

theorem isNumber_iff {cs : List Char} :
    IsNumber cs ↔ cs.head?.any Char.isDigit = true ∧ splitNumber cs = (cs, []) := by
  constructor
  · intro h
    obtain ⟨c, digits, rfl, hc⟩ := exists_head_of_isNumber h
    have hsplit := splitNumber_of_isNumber h
      (show ¬ RunsOn .number (c :: digits) [] by simp [RunsOn])
    rw [List.append_nil] at hsplit
    exact ⟨by simpa using hc, hsplit⟩
  · rintro ⟨hhead, hsplit⟩
    cases cs with
    | nil => simp at hhead
    | cons c cs =>
      obtain ⟨hnumber, -⟩ := @isNumber_splitNumber c cs (by simpa using hhead)
      rwa [hsplit] at hnumber

instance : DecidablePred IsNumber := fun _ => decidable_of_iff' _ isNumber_iff

/-! ## Lexemes that carry their texts -/

theorem isLexeme_identifier_iff {spelling : List Char} {text : String} :
    IsLexeme quotes spelling .identifier text ↔ spelling = text.toList ∧ IsName text.toList := by
  constructor
  · intro h
    cases h with
    | name hword hname => simpa [IsName] using And.intro hword hname
    | symbol hsymbol => cases hsymbol
  · rintro ⟨rfl, hword, hname⟩
    simpa using @IsLexeme.name quotes _ hword hname

theorem isLexeme_number_iff {spelling : List Char} {text : String} :
    IsLexeme quotes spelling .number text ↔ spelling = text.toList ∧ IsNumber text.toList := by
  constructor
  · intro h
    cases h with
    | number hdigits => simpa using hdigits
    | symbol hsymbol => cases hsymbol
  · rintro ⟨rfl, hdigits⟩
    simpa using @IsLexeme.number quotes _ hdigits

theorem isLexeme_string_iff {spelling : List Char} {text : String} :
    IsLexeme quotes spelling .string text ↔ ∃ quote, quotes.accepts quote = true ∧
      quote ∉ text.toList ∧ spelling = quote :: (text.toList ++ [quote]) := by
  constructor
  · intro h
    cases h with
    | string hquote hcontent => exact ⟨_, hquote, by simpa using hcontent, by simp⟩
    | symbol hsymbol => cases hsymbol
  · rintro ⟨quote, hquote, hcontent, rfl⟩
    simpa using @IsLexeme.string quotes quote _ hquote hcontent

/-! ## Names and operands -/

/-- A list of names, and not an empty one. -/
def AreNames (names : List String) : Prop := names ≠ [] ∧ ∀ name ∈ names, IsName name.toList

instance : DecidablePred AreNames := fun _ => inferInstanceAs (Decidable (_ ∧ _))

/-- The operand is a name, a number, or a string that lacks one of the quotes. -/
def Operand.Spellable (quotes : QuoteStyle) : Operand → Prop
  | .column name => IsName name.toList
  | .number text => IsNumber text.toList
  | .string content => ∃ quote, quotes.accepts quote = true ∧ quote ∉ content.toList

theorem exists_accepts_iff {P : Char → Prop} :
    (∃ quote, quotes.accepts quote = true ∧ P quote) ↔
      (quotes.accepts '\'' = true ∧ P '\'') ∨ (quotes.accepts '"' = true ∧ P '"') := by
  constructor
  · rintro ⟨quote, hquote, h⟩
    rcases eq_of_accepts hquote with rfl | rfl
    · exact Or.inl ⟨hquote, h⟩
    · exact Or.inr ⟨hquote, h⟩
  · rintro (h | h)
    · exact ⟨_, h⟩
    · exact ⟨_, h⟩

instance : DecidablePred (Operand.Spellable quotes)
  | .column _ => inferInstanceAs (Decidable (IsName _))
  | .number _ => inferInstanceAs (Decidable (IsNumber _))
  | .string _ => decidable_of_iff' _ exists_accepts_iff

/-- A name is compared with an operand that can be written. -/
structure Comparison.Spellable (quotes : QuoteStyle) (c : Comparison) : Prop where
  column : IsName c.column.toList
  operand : c.operand.Spellable quotes

instance : DecidablePred (Comparison.Spellable quotes) := fun c =>
  decidable_of_iff (IsName c.column.toList ∧ c.operand.Spellable quotes)
    ⟨fun h => ⟨h.1, h.2⟩, fun h => ⟨h.column, h.operand⟩⟩

/-- All comparisons of the tree can be written. -/
def Condition.Spellable (quotes : QuoteStyle) (c : Condition) : Prop :=
  ∀ comparison ∈ c.comparisons, comparison.Spellable quotes

instance : DecidablePred (Condition.Spellable quotes) := fun c =>
  inferInstanceAs (Decidable (∀ comparison ∈ c.comparisons, comparison.Spellable quotes))

/-! ## Clauses -/

/-- All columns, or names of columns. -/
def Projection.Spellable : Projection → Prop
  | .all => True
  | .columns names => AreNames names

instance : DecidablePred Projection.Spellable
  | .all => isTrue trivial
  | .columns _ => inferInstanceAs (Decidable (AreNames _))

/-- The texts of the query can be written, and it asks for columns of tables. -/
structure Query.Spellable (quotes : QuoteStyle) (q : Query) : Prop where
  columns : q.columns.Spellable
  tables : AreNames q.tables
  filter : ∀ c ∈ q.filter, c.Spellable quotes
  grouping : ∀ name ∈ q.grouping, IsName name.toList
  having : ∀ c ∈ q.having, c.Spellable quotes
  ordering : ∀ key ∈ q.ordering, IsName key.column.toList

instance : DecidablePred (Query.Spellable quotes) := fun q =>
  decidable_of_iff (q.columns.Spellable ∧ AreNames q.tables ∧ (∀ c ∈ q.filter, c.Spellable quotes) ∧
      (∀ name ∈ q.grouping, IsName name.toList) ∧ (∀ c ∈ q.having, c.Spellable quotes) ∧
      ∀ key ∈ q.ordering, IsName key.column.toList)
    ⟨fun ⟨columns, tables, filter, grouping, having, ordering⟩ =>
      ⟨columns, tables, filter, grouping, having, ordering⟩,
      fun h => ⟨h.columns, h.tables, h.filter, h.grouping, h.having, h.ordering⟩⟩

/-- The conditions of the query are grouped from the left, and it restricts groups only where it
forms some. -/
structure Query.Regular (q : Query) : Prop where
  filter : ∀ c ∈ q.filter, c.LeftGrouped
  having : ∀ c ∈ q.having, c.LeftGrouped
  grouping : q.grouping = [] → q.having = none

/-! ## Quotes of both sorts -/

/-- Where both quotes are accepted, all can be written that can be written at all. -/
theorem Operand.Spellable.both {operand : Operand} (h : operand.Spellable quotes) :
    operand.Spellable .both := by
  cases operand with
  | column name => exact h
  | number text => exact h
  | string content =>
    obtain ⟨quote, hquote, hcontent⟩ := h
    refine ⟨quote, ?_, hcontent⟩
    rcases eq_of_accepts hquote with rfl | rfl <;> rfl

theorem Comparison.Spellable.both {c : Comparison} (h : c.Spellable quotes) : c.Spellable .both :=
  ⟨h.column, h.operand.both⟩

theorem Query.Spellable.both {q : Query} (h : q.Spellable quotes) : q.Spellable .both where
  columns := h.columns
  tables := h.tables
  filter c hc comparison hmem := (h.filter c hc comparison hmem).both
  grouping := h.grouping
  having c hc comparison hmem := (h.having c hc comparison hmem).both
  ordering := h.ordering

/-! ## Conditions and their groups -/

namespace Condition

theorem comparisons_ofGroups (groups : Groups) :
    (ofGroups groups).comparisons =
      (groups.1 :: groups.2).flatMap fun group => group.1 :: group.2 := by
  rw [comparisons_eq_sequence, sequence_ofGroups]
  simp [Group.tail, tails, List.map_flatMap, Function.comp_def]

theorem spellable_ofGroups_iff (groups : Groups) :
    (ofGroups groups).Spellable quotes ↔ ∀ group ∈ groups.1 :: groups.2,
      group.1.Spellable quotes ∧ ∀ c ∈ group.2, c.Spellable quotes := by
  rw [Spellable, comparisons_ofGroups]
  simp only [List.forall_mem_flatMap, List.forall_mem_cons]

theorem spellable_regroup_iff (c : Condition) :
    c.regroup.Spellable quotes ↔ c.Spellable quotes := by
  rw [Spellable, Spellable, comparisons_regroup]

end Condition

end SelectLang

import SelectLang.Proofs.Grammar.Tokens
import SelectLang.Proofs.Query.Spellable
import SelectLang.Proofs.Rendering.Reparse

/-!
# Which queries are parsed from some text

A query comes from some text exactly if its texts can be written, its conditions are grouped as a
reader groups them, and it has the semicolon that the dialect may require
(`exists_parse_eq_ok_iff`).  Such a query is put together from the leaves up: each part of it is
written with lexemes (`Spells`), and lexemes can always be written one after the other with a blank
before each.
-/

namespace SelectLang

open Phrase (tokens)
open Text

variable {quotes : QuoteStyle}

/-! ## Tokens of lexemes -/

theorem isLexical_leaf_iff {kind : Kind} (leaf : Leaf kind) :
    leaf.val.IsLexical quotes ↔ ∃ spelling, IsLexeme quotes spelling kind leaf.val.text := by
  rw [Token.IsLexical, leaf.property]

theorem exists_isLexeme_identifier_iff {text : String} :
    (∃ spelling, IsLexeme quotes spelling .identifier text) ↔ IsName text.toList := by
  simp [isLexeme_identifier_iff]

theorem exists_isLexeme_number_iff {text : String} :
    (∃ spelling, IsLexeme quotes spelling .number text) ↔ IsNumber text.toList := by
  simp [isLexeme_number_iff]

theorem exists_isLexeme_string_iff {text : String} :
    (∃ spelling, IsLexeme quotes spelling .string text) ↔
      ∃ quote, quotes.accepts quote = true ∧ quote ∉ text.toList := by
  constructor
  · rintro ⟨spelling, h⟩
    obtain ⟨quote, hquote, hcontent, -⟩ := isLexeme_string_iff.1 h
    exact ⟨quote, hquote, hcontent⟩
  · rintro ⟨quote, hquote, hcontent⟩
    exact ⟨_, isLexeme_string_iff.2 ⟨quote, hquote, hcontent, rfl⟩⟩

/-- A kind whose tokens are all written alike has a lexeme. -/
theorem exists_leaf_of_sign (quotes : QuoteStyle) (kind : Kind) (h : kind.sign?.isSome = true) :
    ∃ leaf : Leaf kind, leaf.val.IsLexical quotes := by
  have hleaf : ∀ {spelling : List Char} {text : String}, IsLexeme quotes spelling kind text →
      ∃ leaf : Leaf kind, leaf.val.IsLexical quotes := by
    intro spelling text hlexeme
    exact ⟨⟨⟨kind, text, .emptyAt 0⟩, rfl⟩, spelling, hlexeme⟩
  cases kind with
  | keyword k => exact hleaf (.keyword k (isWord_spelling k) rfl)
  | comma => exact hleaf (.symbol .comma)
  | semicolon => exact hleaf (.symbol .semicolon)
  | star => exact hleaf (.symbol .star)
  | comparator op => exact hleaf (.symbol (isSymbol_symbol op))
  | _ => cases h

/-! ## Parts and their values -/

/-- The trees of the part that are made of lexemes stand for just the values with the property. -/
structure Spells (quotes : QuoteStyle) {α τ : Type} [Phrase τ] (value : τ → α) (P : α → Prop) :
    Prop where
  sound : ∀ {t : τ}, Every (Token.IsLexical quotes) t → P (value t)
  complete : ∀ {a : α}, P a → ∃ t, Every (Token.IsLexical quotes) t ∧ value t = a

namespace Spells

variable {α β τ : Type} [Phrase τ] {value : τ → α} {P : α → Prop}

theorem map (h : Spells quotes value P) {g : α → β} {Q : β → Prop}
    (hQ : ∀ b, Q b ↔ ∃ a, P a ∧ g a = b) : Spells quotes (fun t => g (value t)) Q where
  sound ht := (hQ _).2 ⟨_, h.sound ht, rfl⟩
  complete {b} hb := by
    obtain ⟨a, ha, rfl⟩ := (hQ b).1 hb
    obtain ⟨t, ht, rfl⟩ := h.complete ha
    exact ⟨t, ht, rfl⟩

/-- A chain stands for the value of its first part and those of the others. -/
theorem chain (h : Spells quotes value P) (separator : Kind)
    (hseparator : separator.sign?.isSome = true) :
    Spells quotes
      (fun chain : Chain separator τ =>
        (value chain.first, chain.others.map fun other => value other.2))
      fun pair => P pair.1 ∧ ∀ a ∈ pair.2, P a where
  sound {chain} hchain := by
    obtain ⟨hfirst, hothers⟩ := (every_chain _).1 hchain
    refine ⟨h.sound hfirst, fun a ha => ?_⟩
    obtain ⟨other, hother, rfl⟩ := List.mem_map.1 ha
    exact h.sound (hothers other hother).2
  complete {pair} hpair := by
    obtain ⟨a, as⟩ := pair
    obtain ⟨ha, has⟩ : P a ∧ ∀ b ∈ as, P b := hpair
    obtain ⟨leaf, hleaf⟩ := exists_leaf_of_sign quotes separator hseparator
    obtain ⟨first, hfirst, rfl⟩ := h.complete ha
    have hothers : ∃ others : List (Leaf separator × τ),
        (∀ other ∈ others, other.1.val.IsLexical quotes ∧ Every (Token.IsLexical quotes) other.2) ∧
          others.map (fun other => value other.2) = as := by
      induction as with
      | nil => exact ⟨[], by simp, rfl⟩
      | cons b bs ih =>
        obtain ⟨next, hnext, rfl⟩ := h.complete (has b List.mem_cons_self)
        obtain ⟨others, hothers, rfl⟩ := ih fun c hc => has c (List.mem_cons_of_mem _ hc)
        exact ⟨(leaf, next) :: others, List.forall_mem_cons.2 ⟨⟨hleaf, hnext⟩, hothers⟩, rfl⟩
    obtain ⟨others, hothers, rfl⟩ := hothers
    exact ⟨⟨first, others⟩, (every_chain _).2 ⟨hfirst, hothers⟩, rfl⟩

/-- The parts of a chain are any values but none at all. -/
theorem parts (h : Spells quotes value P) (separator : Kind)
    (hseparator : separator.sign?.isSome = true) :
    Spells quotes (fun chain : Chain separator τ => chain.parts.map value)
      fun as => as ≠ [] ∧ ∀ a ∈ as, P a := by
  have hcons := (h.chain separator hseparator).map (g := fun pair => pair.1 :: pair.2)
    (Q := fun as => as ≠ [] ∧ ∀ a ∈ as, P a) fun as => ?_
  · simpa [Chain.parts, Function.comp_def] using hcons
  · constructor
    · rintro ⟨hne, has⟩
      obtain ⟨a, as, rfl⟩ := List.exists_cons_of_ne_nil hne
      exact ⟨(a, as), List.forall_mem_cons.1 has, rfl⟩
    · rintro ⟨⟨a, as⟩, has, rfl⟩
      exact ⟨List.cons_ne_nil _ _, List.forall_mem_cons.2 has⟩

theorem announced (h : Spells quotes value P) (keyword : Keyword) :
    Spells quotes (fun part : Announced keyword τ => part.map fun pair => value pair.2)
      fun found => ∀ a ∈ found, P a where
  sound {part} hpart a ha := by
    obtain ⟨pair, rfl, rfl⟩ := Option.map_eq_some_iff.1 ha
    exact h.sound ((every_pair _ _).1 ((every_some _).1 hpart)).2
  complete {found} hfound := by
    cases found with
    | none => exact ⟨none, every_none, rfl⟩
    | some a =>
      obtain ⟨leaf, hleaf⟩ := exists_leaf_of_sign quotes (.keyword keyword) rfl
      obtain ⟨t, ht, rfl⟩ := h.complete (hfound a rfl)
      exact ⟨some (leaf, t), by simpa using ⟨hleaf, ht⟩, rfl⟩

end Spells

/-! ## Names and projections -/

theorem spells_name :
    Spells quotes (fun leaf : Leaf .identifier => leaf.val.text)
      fun name => IsName name.toList where
  sound {leaf} hleaf :=
    exists_isLexeme_identifier_iff.1 ((isLexical_leaf_iff leaf).1 ((every_leaf leaf).1 hleaf))
  complete {name} hname :=
    ⟨⟨⟨.identifier, name, .emptyAt 0⟩, rfl⟩,
      (every_leaf _).2 (exists_isLexeme_identifier_iff.2 hname), rfl⟩

theorem spells_names : Spells quotes WrittenNames.names AreNames :=
  spells_name.parts .comma rfl

theorem spells_projection :
    Spells quotes WrittenProjection.projection Projection.Spellable where
  sound {written} hwritten := by
    cases written with
    | all star => trivial
    | columns names => exact spells_names.sound ((every_columns names).1 hwritten)
  complete {projection} h := by
    cases projection with
    | all =>
      obtain ⟨star, hstar⟩ := exists_leaf_of_sign quotes .star rfl
      exact ⟨.all star, (every_star star).2 hstar, rfl⟩
    | columns names =>
      obtain ⟨written, hwritten, rfl⟩ := spells_names.complete h
      exact ⟨.columns written, (every_columns written).2 hwritten, rfl⟩

/-! ## Conditions -/

theorem spells_operand :
    Spells quotes WrittenOperand.operand (Operand.Spellable quotes) where
  sound {written} hwritten := by
    have htoken := (every_operand written).1 hwritten
    cases written with
    | column leaf => exact exists_isLexeme_identifier_iff.1 ((isLexical_leaf_iff leaf).1 htoken)
    | number leaf => exact exists_isLexeme_number_iff.1 ((isLexical_leaf_iff leaf).1 htoken)
    | string leaf => exact exists_isLexeme_string_iff.1 ((isLexical_leaf_iff leaf).1 htoken)
  complete {operand} h := by
    cases operand with
    | column name =>
      exact ⟨.column ⟨⟨.identifier, name, .emptyAt 0⟩, rfl⟩,
        (every_operand _).2 (exists_isLexeme_identifier_iff.2 h), rfl⟩
    | number text =>
      exact ⟨.number ⟨⟨.number, text, .emptyAt 0⟩, rfl⟩,
        (every_operand _).2 (exists_isLexeme_number_iff.2 h), rfl⟩
    | string content =>
      exact ⟨.string ⟨⟨.string, content, .emptyAt 0⟩, rfl⟩,
        (every_operand _).2 (exists_isLexeme_string_iff.2 h), rfl⟩

theorem spells_comparison :
    Spells quotes WrittenComparison.comparison (Comparison.Spellable quotes) where
  sound {written} hwritten := by
    obtain ⟨hcolumn, -, hoperand⟩ := (every_comparison written).1 hwritten
    exact ⟨spells_name.sound ((every_leaf _).2 hcolumn),
      spells_operand.sound ((every_operand _).2 hoperand)⟩
  complete {c} h := by
    obtain ⟨name, op, value⟩ := c
    obtain ⟨hname, hvalue⟩ := h
    obtain ⟨column, hcolumn, rfl⟩ := spells_name.complete hname
    obtain ⟨sign, hsign⟩ := exists_leaf_of_sign quotes (.comparator op) rfl
    obtain ⟨operand, hoperand, rfl⟩ := spells_operand.complete hvalue
    exact ⟨⟨column, ⟨op, sign⟩, operand⟩, (every_comparison _).2
      ⟨(every_leaf column).1 hcolumn, hsign, (every_operand operand).1 hoperand⟩, rfl⟩

/-- The groups of comparisons that are written, one for each conjunction. -/
def WrittenCondition.groups (written : WrittenCondition) : Condition.Groups :=
  let group : WrittenConjunction → Condition.Group := fun conjunction =>
    (conjunction.first.comparison, conjunction.others.map fun other => other.2.comparison)
  (group written.first, written.others.map fun other => group other.2)

theorem WrittenCondition.ofGroups_groups (written : WrittenCondition) :
    Condition.ofGroups (WrittenCondition.groups written) = WrittenCondition.condition written := by
  simp [WrittenCondition.condition, WrittenConjunction.condition, WrittenCondition.groups,
    Condition.ofGroups, Condition.ofGroup, Function.comp_def]

theorem spells_condition :
    Spells quotes WrittenCondition.condition fun c => c.Spellable quotes ∧ c.LeftGrouped := by
  have hgroups : Spells quotes WrittenCondition.groups _ :=
    ((@spells_comparison quotes).chain (.keyword .and) rfl).chain (.keyword .or) rfl
  have hcondition := hgroups.map (g := Condition.ofGroups)
    (Q := fun c => c.Spellable quotes ∧ c.LeftGrouped) fun c => ?_
  · simpa only [WrittenCondition.ofGroups_groups] using hcondition
  · constructor
    · rintro ⟨hspellable, hgrouped⟩
      obtain ⟨groups, rfl⟩ := Condition.leftGrouped_iff_exists_groups.1 hgrouped
      have hall := (Condition.spellable_ofGroups_iff groups).1 hspellable
      exact ⟨groups, List.forall_mem_cons.1 hall, rfl⟩
    · rintro ⟨groups, hall, rfl⟩
      exact ⟨(Condition.spellable_ofGroups_iff groups).2 (List.forall_mem_cons.2 hall),
        Condition.leftGrouped_ofGroups groups⟩

/-! ## Clauses -/

theorem spells_direction : Spells quotes WrittenDirection.direction fun _ => True where
  sound _ := trivial
  complete {direction} _ := by
    cases direction with
    | asc => exact ⟨.unwritten, every_unwritten, rfl⟩
    | desc =>
      obtain ⟨leaf, hleaf⟩ := exists_leaf_of_sign quotes (.keyword .desc) rfl
      exact ⟨.desc leaf, (every_desc leaf).2 hleaf, rfl⟩

theorem spells_sortKey :
    Spells quotes WrittenSortKey.sortKey fun key => IsName key.column.toList where
  sound hwritten := spells_name.sound ((every_leaf _).2 ((every_sortKey _).1 hwritten).1)
  complete {key} hname := by
    obtain ⟨name, direction⟩ := key
    obtain ⟨column, hcolumn, rfl⟩ := spells_name.complete hname
    obtain ⟨written, hwritten, rfl⟩ := spells_direction.complete (a := direction) trivial
    exact ⟨⟨column, written⟩, (every_sortKey _).2 ⟨(every_leaf _).1 hcolumn, hwritten⟩, rfl⟩

theorem spells_ordering :
    Spells quotes WrittenOrdering.sortKeys
      fun keys => keys ≠ [] ∧ ∀ key ∈ keys, IsName key.column.toList where
  sound hwritten := (spells_sortKey.parts .comma rfl).sound ((every_ordering _).1 hwritten).2
  complete h := by
    obtain ⟨byWord, hby⟩ := exists_leaf_of_sign quotes (.keyword .by) rfl
    obtain ⟨written, hwritten, rfl⟩ := (spells_sortKey.parts .comma rfl).complete h
    exact ⟨⟨byWord, written⟩, (every_ordering _).2 ⟨hby, hwritten⟩, rfl⟩

theorem spells_groups :
    Spells quotes WrittenGroups.groups fun groups => AreNames groups.1 ∧
      ∀ c ∈ groups.2, c.Spellable quotes ∧ c.LeftGrouped where
  sound {written} hwritten := by
    obtain ⟨-, hnames, hhaving⟩ := (every_groups written).1 hwritten
    exact ⟨spells_names.sound hnames, (spells_condition.announced .having).sound hhaving⟩
  complete {groups} h := by
    obtain ⟨names, having⟩ := groups
    obtain ⟨hnames, hhaving⟩ := h
    obtain ⟨byWord, hby⟩ := exists_leaf_of_sign quotes (.keyword .by) rfl
    obtain ⟨written, hwritten, rfl⟩ := spells_names.complete hnames
    obtain ⟨condition, hcondition, rfl⟩ := (spells_condition.announced .having).complete hhaving
    exact ⟨⟨byWord, written, condition⟩, (every_groups _).2 ⟨hby, hwritten, hcondition⟩, rfl⟩

theorem spells_terminator (required : Bool) :
    Spells quotes (fun written : WrittenTerminator required => written.val.isSome)
      fun terminated => required = true → terminated = true where
  sound {written} _ := written.property
  complete {terminated} h := by
    cases terminated with
    | false => exact ⟨⟨none, h⟩, every_none, rfl⟩
    | true =>
      obtain ⟨leaf, hleaf⟩ := exists_leaf_of_sign quotes .semicolon rfl
      exact ⟨⟨some leaf, h⟩, (every_leaf leaf).2 hleaf, rfl⟩

/-! ## Statements -/

/-- A clause with a list is left out where the list is empty. -/
theorem spells_list {α τ : Type} [Phrase τ] {value : τ → List α} {P : α → Prop}
    (h : Spells quotes value fun as => as ≠ [] ∧ ∀ a ∈ as, P a) (keyword : Keyword) :
    Spells quotes
      (fun part : Announced keyword τ => (part.map fun pair => value pair.2).getD [])
      fun as => ∀ a ∈ as, P a where
  sound {part} hpart := by
    cases part with
    | none => simp
    | some pair => exact ((h.announced keyword).sound hpart _ rfl).2
  complete {as} has := by
    by_cases hnil : as = []
    · exact ⟨none, every_none, hnil.symm⟩
    · obtain ⟨part, hpart, hvalue⟩ := (h.announced keyword).complete (a := some as)
        fun bs hbs => by rw [← Option.some.inj hbs]; exact ⟨hnil, has⟩
      exact ⟨part, hpart, by rw [hvalue]; rfl⟩

/-- The clause of groups is left out where there are none. -/
theorem spells_grouping :
    Spells quotes
      (fun part : Announced .group WrittenGroups =>
        ((part.map fun groups => WrittenNames.names groups.2.names).getD [],
          part.bind fun groups =>
            groups.2.having.map fun having => WrittenCondition.condition having.2))
      fun groups => (∀ name ∈ groups.1, IsName name.toList) ∧
        (∀ c ∈ groups.2, c.Spellable quotes ∧ c.LeftGrouped) ∧
        (groups.1 = [] → groups.2 = none) where
  sound {part} hpart := by
    cases part with
    | none => simp
    | some pair =>
      obtain ⟨⟨hne, hnames⟩, hhaving⟩ := (spells_groups.announced .group).sound hpart _ rfl
      exact ⟨hnames, hhaving, fun hnil => absurd hnil hne⟩
  complete {groups} h := by
    obtain ⟨names, having⟩ := groups
    obtain ⟨hnames, hhaving, hnone⟩ := h
    by_cases hnil : names = []
    · exact ⟨none, every_none, Prod.ext hnil.symm (hnone hnil).symm⟩
    · obtain ⟨part, hpart, hvalue⟩ := (spells_groups.announced .group).complete
        (a := some (names, having)) fun groups hgroups => by
          rw [← Option.some.inj hgroups]
          exact ⟨⟨hnil, hnames⟩, hhaving⟩
      obtain ⟨pair, rfl, hpair⟩ := Option.map_eq_some_iff.1 hvalue
      exact ⟨some pair, hpart, hpair⟩

/-- Derivations of lexemes stand for the queries that can be written. -/
theorem spells_query (required : Bool) :
    Spells quotes (fun written : Derivation required => written.query) fun q =>
      q.Spellable quotes ∧ q.Regular ∧ (required = true → q.terminated = true) where
  sound {written} hwritten := by
    obtain ⟨-, hcolumns, -, htables, hfilter, hgroups, hordering, -⟩ :=
      (every_derivation written).1 hwritten
    have hfilter := (spells_condition.announced .where).sound hfilter
    obtain ⟨hgrouping, hhaving, hnone⟩ := spells_grouping.sound hgroups
    exact ⟨⟨spells_projection.sound hcolumns, spells_names.sound htables,
        fun c hc => (hfilter c hc).1, hgrouping, fun c hc => (hhaving c hc).1,
        (spells_list spells_ordering .order).sound hordering⟩,
      ⟨fun c hc => (hfilter c hc).2, fun c hc => (hhaving c hc).2, hnone⟩,
      written.terminator.property⟩
  complete {q} hq := by
    obtain ⟨columns, tables, filter, grouping, having, keys, terminated⟩ := q
    obtain ⟨hspellable, hregular, hterminated⟩ := hq
    obtain ⟨select, hselect⟩ := exists_leaf_of_sign quotes (.keyword .select) rfl
    obtain ⟨projection, hprojection, rfl⟩ := spells_projection.complete hspellable.columns
    obtain ⟨fromWord, hfrom⟩ := exists_leaf_of_sign quotes (.keyword .from) rfl
    obtain ⟨names, hnames, rfl⟩ := spells_names.complete hspellable.tables
    obtain ⟨filter, hfilter, rfl⟩ := (spells_condition.announced .where).complete
      fun c hc => ⟨hspellable.filter c hc, hregular.filter c hc⟩
    obtain ⟨groups, hgroups, hgrouping⟩ := spells_grouping.complete (a := (grouping, having))
      ⟨hspellable.grouping, fun c hc => ⟨hspellable.having c hc, hregular.having c hc⟩,
        hregular.grouping⟩
    obtain ⟨rfl, rfl⟩ := Prod.mk.inj hgrouping
    obtain ⟨ordering, hordering, rfl⟩ :=
      (spells_list spells_ordering .order).complete hspellable.ordering
    obtain ⟨terminator, hterminator, rfl⟩ := (spells_terminator required).complete hterminated
    exact ⟨⟨select, projection, fromWord, names, filter, groups, ordering, terminator⟩,
      (every_derivation _).2 ⟨hselect, hprojection, hfrom, hnames, hfilter, hgroups, hordering,
        hterminator⟩, rfl⟩

/-! ## Texts -/

/-- Lexemes for the tokens, with a blank before each. -/
theorem exists_spaced_items {ts : List Token} (h : ∀ token ∈ ts, token.IsLexical quotes) :
    ∃ items : List (Item quotes), (∀ item ∈ items, item.gap.val = [' ']) ∧
      ∀ offset, List.Forall₂ (Token.Similar Eq) ts (place offset items) := by
  induction ts with
  | nil => exact ⟨[], by simp, fun _ => .nil⟩
  | cons token ts ih =>
    obtain ⟨items, hgaps, hsimilar⟩ := ih fun t ht => h t (List.mem_cons_of_mem _ ht)
    obtain ⟨spelling, hlexeme⟩ := h token List.mem_cons_self
    have hblank : ∀ c ∈ [' '], isBlank c = true := by simp [isBlank_space]
    refine ⟨⟨⟨[' '], hblank⟩, ⟨spelling, _, _, hlexeme⟩⟩ :: items,
      List.forall_mem_cons.2 ⟨rfl, hgaps⟩, fun offset => ?_⟩
    exact .cons ⟨rfl, fun _ => rfl⟩ (hsimilar _)

/-- Tokens of lexemes are those of some text, their places aside. -/
theorem exists_tokenize_of_lexical {dialect : Dialect} {ts : List Token}
    (h : ∀ token ∈ ts, token.IsLexical dialect.quotes) :
    ∃ (source : String) (ts' : List Token) (stop : Nat),
      tokenize dialect source = .ok (ts' ++ [.eof stop]) ∧
        List.Forall₂ (Token.Similar Eq) ts ts' ∧ ∀ token ∈ ts', token.kind ≠ .eof := by
  obtain ⟨items, hgaps, hsimilar⟩ := exists_spaced_items h
  have hapart : Apart items [] := by
    refine (apart_iff_isChain (by simp)).2 ?_
    refine List.isChain_iff_forall_rel_of_append_cons_cons.2 ?_
    intro x y before after hitems hgap
    rw [hgaps y (by simp [hitems])] at hgap
    cases hgap
  refine ⟨String.ofList (itemsText items ++ []), place 0 items,
    0 + byteLength (itemsText items) + byteLength [], ?_, hsimilar 0,
    fun token htoken => kind_ne_eof_of_mem_place htoken⟩
  change cut dialect.quotes (String.ofList (itemsText items ++ [])).toList 0 = _
  rw [String.toList_ofList, cut_items hapart, cut_of_isBlank (by simp)]
  rfl

/-- Any derivation of lexemes is that of some text. -/
theorem exists_parse_of_derivation {dialect : Dialect}
    {derivation : Derivation dialect.terminatorRequired}
    (h : derivation.OfLexemes dialect.quotes) :
    ∃ source, Query.parse dialect source = .ok derivation.query := by
  obtain ⟨source, ts, stop, htokens, hsimilar, heof⟩ := exists_tokenize_of_lexical h
  have hquery : Query.ofTokens dialect (ts ++ [.eof stop]) = .ok derivation.query :=
    ofTokens_eq_ok_of_similar hsimilar heof derivation.terminator.property
  refine ⟨source, ?_⟩
  rw [Query.parse, htokens]
  dsimp only
  rw [hquery]
  rfl

/-- The queries that are parsed from some text are just those that can be written, are grouped as a
reader groups them, and have the semicolon where it is required. -/
theorem exists_parse_eq_ok_iff (dialect : Dialect) (q : Query) :
    (∃ source, Query.parse dialect source = .ok q) ↔
      q.Spellable dialect.quotes ∧ q.Regular ∧
        (dialect.terminatorRequired = true → q.terminated = true) := by
  constructor
  · rintro ⟨source, h⟩
    obtain ⟨derivation, hlexemes, rfl⟩ := exists_derivation_of_parse h
    exact (spells_query dialect.terminatorRequired).sound hlexemes
  · intro h
    obtain ⟨derivation, hlexemes, rfl⟩ := (spells_query dialect.terminatorRequired).complete h
    exact exists_parse_of_derivation hlexemes

end SelectLang

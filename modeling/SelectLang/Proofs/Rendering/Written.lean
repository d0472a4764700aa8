import SelectLang.Proofs.Grammar.Tokens
import SelectLang.Query.Render

/-!
# The text of a derivation

A query is rendered token by token: the rendered text is that of the tokens of its derivation, each
in plain form and with a blank before it unless it is a comma or a semicolon
(`Derivation.written_spell`).  All that the derivation has to be changed in is that every direction
is written.
-/

namespace SelectLang

open Phrase (tokens)

/-! ## Tokens in plain form -/

/-- How the tokens of the kind are written, if all of them are written alike. -/
def Kind.sign? : Kind → Option String
  | .keyword k => some k.spelling
  | .comparator op => some op.symbol
  | .comma => some ","
  | .semicolon => some ";"
  | .star => some "*"
  | .identifier | .number | .string | .eof => none

namespace Token

/-- The text that the token has in plain form. -/
def plainText (token : Token) : String := token.kind.sign?.getD token.text

/-- The token as it stands in a rendered statement. -/
def spelled (token : Token) : List Char :=
  if token.kind = .string then (Operand.string token.text).render.toList
  else token.plainText.toList

/-- What comes before the token in a rendered statement. -/
def lead (token : Token) : List Char :=
  if token.kind = .comma ∨ token.kind = .semicolon then [] else [' ']

end Token

/-- The tokens in plain form, one after the other. -/
def written (ts : List Token) : List Char := ts.flatMap fun token => token.lead ++ token.spelled

@[simp] theorem written_nil : written [] = [] := rfl

@[simp] theorem written_append (ts us : List Token) :
    written (ts ++ us) = written ts ++ written us := List.flatMap_append

theorem written_cons (token : Token) (ts : List Token) :
    written (token :: ts) = token.lead ++ (token.spelled ++ written ts) := by
  rw [written, List.flatMap_cons, List.append_assoc]
  rfl

@[simp] theorem written_keyword {k : Keyword} (leaf : Leaf (.keyword k)) :
    written [leaf.val] = ' ' :: k.spelling.toList := by
  simp [written, Token.lead, Token.spelled, Token.plainText, leaf.property, Kind.sign?]

@[simp] theorem written_comma (leaf : Leaf .comma) : written [leaf.val] = [','] := by
  simp [written, Token.lead, Token.spelled, Token.plainText, leaf.property, Kind.sign?]

@[simp] theorem written_semicolon (leaf : Leaf .semicolon) : written [leaf.val] = [';'] := by
  simp [written, Token.lead, Token.spelled, Token.plainText, leaf.property, Kind.sign?]

@[simp] theorem written_star (leaf : Leaf .star) : written [leaf.val] = [' ', '*'] := by
  simp [written, Token.lead, Token.spelled, Token.plainText, leaf.property, Kind.sign?]

@[simp] theorem written_name (leaf : Leaf .identifier) :
    written [leaf.val] = ' ' :: leaf.val.text.toList := by
  simp [written, Token.lead, Token.spelled, Token.plainText, leaf.property, Kind.sign?]

@[simp] theorem written_comparator (comparator : WrittenComparator) :
    written (tokens comparator) = ' ' :: comparator.op.symbol.toList := by
  obtain ⟨op, leaf⟩ := comparator
  change written [leaf.val] = _
  simp [written, Token.lead, Token.spelled, Token.plainText, leaf.property, Kind.sign?]

@[simp] theorem written_operand (operand : WrittenOperand) :
    written (tokens operand) = ' ' :: operand.operand.render.toList := by
  change written [operand.token] = _
  cases operand with
  | column leaf =>
    simp [written, Token.lead, Token.spelled, Token.plainText, WrittenOperand.token, leaf.property,
      Kind.sign?, WrittenOperand.operand, Operand.render]
  | number leaf =>
    simp [written, Token.lead, Token.spelled, Token.plainText, WrittenOperand.token, leaf.property,
      Kind.sign?, WrittenOperand.operand, Operand.render]
  | string leaf =>
    simp [written, Token.lead, Token.spelled, WrittenOperand.token, leaf.property,
      WrittenOperand.operand]

/-! ## Lists -/

section

variable {τ : Type} [Phrase τ]

theorem commaList_cons_cons (first next : String) (names : List String) :
    commaList (first :: next :: names) = first ++ ", " ++ commaList (next :: names) :=
  String.intercalate_cons_cons

/-- Parts with commas between them are written as a list with commas and blanks. -/
theorem written_commaChain {render : τ → String} (chain : Chain .comma τ)
    (h : ∀ x ∈ chain.parts, written (tokens x) = ' ' :: (render x).toList) :
    written (tokens chain) = ' ' :: (commaList (chain.parts.map render)).toList := by
  obtain ⟨first, others⟩ := chain
  induction others generalizing first with
  | nil => simpa [Chain.parts, commaList] using h
  | cons other others ih =>
    obtain ⟨comma, next⟩ := other
    have hfirst := h first List.mem_cons_self
    have hnext := ih next fun x hx => h x (List.mem_cons_of_mem _ hx)
    simp only [tokens_chain, written_append, Chain.parts, List.map_cons] at hnext
    simp only [tokens_chain, tokens_cons, tokens_pair, tokens_leaf, written_append, hfirst,
      written_comma, Chain.parts, List.map_cons, commaList_cons_cons, String.toList_append]
    rw [List.append_assoc, hnext]
    simp

theorem render_node (op : Connective) (left right : Condition) :
    (Condition.node left op right).render.toList =
      left.render.toList ++ (' ' :: op.render.toList) ++ (' ' :: right.render.toList) := by
  simp [Condition.render]

/-- Parts with a connective between them are written as their conditions are when joined. -/
theorem written_connectiveChain (op : Connective) {condition : τ → Condition}
    (h : ∀ x : τ, written (tokens x) = ' ' :: (condition x).render.toList)
    (chain : Chain (.keyword op.keyword) τ) :
    written (tokens chain) =
      ' ' :: (Condition.joined op (condition chain.first)
        (chain.others.map fun other => condition other.2)).render.toList := by
  obtain ⟨first, others⟩ := chain
  induction others using List.reverseRecOn with
  | nil =>
    rw [tokens_chain, tokens_nil, List.append_nil]
    exact h first
  | append_singleton others last ih =>
    obtain ⟨keyword, next⟩ := last
    have htokens : tokens (Chain.mk first (others ++ [(keyword, next)])) =
        tokens (Chain.mk first others) ++ (tokens keyword ++ tokens next) := by
      simp [Phrase.tokens]
    rw [htokens, written_append, written_append, ih, h, tokens_leaf, written_keyword,
      List.map_append, List.map_singleton, Condition.joined_concat, render_node]
    simp [Connective.render]

end

/-! ## Clauses -/

theorem written_names (names : WrittenNames) :
    written (tokens names) = ' ' :: (commaList (WrittenNames.names names)).toList :=
  written_commaChain names fun name _ => written_name name

theorem written_projection (projection : WrittenProjection) :
    written (tokens projection) = ' ' :: projection.projection.render.toList := by
  cases projection with
  | all star =>
    change written [star.val] = _
    simp [WrittenProjection.projection, Projection.render]
  | columns names => exact written_names names

theorem written_comparison (comparison : WrittenComparison) :
    written (tokens comparison) = ' ' :: comparison.comparison.render.toList := by
  obtain ⟨column, comparator, operand⟩ := comparison
  change written (tokens column ++ (tokens comparator ++ tokens operand)) = _
  rw [written_append, written_append, tokens_leaf, written_name, written_comparator,
    written_operand]
  simp [WrittenComparison.comparison, Comparison.render]

theorem written_conjunction (conjunction : WrittenConjunction) :
    written (tokens conjunction) =
      ' ' :: (WrittenConjunction.condition conjunction).render.toList := by
  have hleaf : ∀ comparison : WrittenComparison, written (tokens comparison) =
      ' ' :: (Condition.leaf comparison.comparison).render.toList := written_comparison
  exact written_connectiveChain .and hleaf conjunction

theorem written_condition (condition : WrittenCondition) :
    written (tokens condition) = ' ' :: (WrittenCondition.condition condition).render.toList :=
  written_connectiveChain .or written_conjunction condition

namespace WrittenDirection

/-- The direction in writing. -/
def spell : WrittenDirection → WrittenDirection
  | .desc leaf => .desc leaf
  | .asc leaf => .asc leaf
  | .unwritten => .asc ⟨⟨.keyword .asc, Keyword.asc.spelling, .emptyAt 0⟩, rfl⟩

@[simp] theorem direction_spell (direction : WrittenDirection) :
    direction.spell.direction = direction.direction := by
  cases direction <;> rfl

theorem written_spell (direction : WrittenDirection) :
    written (tokens direction.spell) =
      ' ' :: direction.direction.keyword.spelling.toList := by
  cases direction with
  | desc leaf => exact written_keyword leaf
  | asc leaf => exact written_keyword leaf
  | unwritten => rfl

end WrittenDirection

/-- The sort key with its direction in writing. -/
def WrittenSortKey.spell (key : WrittenSortKey) : WrittenSortKey :=
  { key with direction := key.direction.spell }

@[simp] theorem WrittenSortKey.sortKey_spell (key : WrittenSortKey) :
    key.spell.sortKey = key.sortKey := by
  simp [WrittenSortKey.sortKey, WrittenSortKey.spell]

theorem written_sortKey (key : WrittenSortKey) :
    written (tokens key.spell) = ' ' :: key.spell.sortKey.render.toList := by
  change written (tokens key.column ++ tokens key.direction.spell) = _
  rw [written_append, tokens_leaf, written_name, WrittenDirection.written_spell]
  simp [WrittenSortKey.spell, WrittenSortKey.sortKey, SortKey.render]

/-- The chain with each part changed. -/
def Chain.map {separator : Kind} {τ σ : Type} (f : τ → σ) (chain : Chain separator τ) :
    Chain separator σ :=
  ⟨f chain.first, chain.others.map fun other => (other.1, f other.2)⟩

@[simp] theorem Chain.parts_map {separator : Kind} {τ σ : Type} (f : τ → σ)
    (chain : Chain separator τ) : (chain.map f).parts = chain.parts.map f := by
  simp [Chain.map, Chain.parts, Function.comp_def]

namespace WrittenOrdering

/-- The ordering with every direction in writing. -/
def spell (ordering : WrittenOrdering) : WrittenOrdering :=
  { ordering with keys := ordering.keys.map WrittenSortKey.spell }

@[simp] theorem sortKeys_spell (ordering : WrittenOrdering) :
    ordering.spell.sortKeys = ordering.sortKeys := by
  simp [sortKeys, spell, Function.comp_def]

theorem written_spell (ordering : WrittenOrdering) :
    written (tokens ordering.spell) =
      ' ' :: ("BY " ++ commaList (ordering.sortKeys.map SortKey.render)).toList := by
  have hkeys : ∀ key ∈ ordering.spell.keys.parts,
      written (tokens key) = ' ' :: key.sortKey.render.toList := by
    intro key hkey
    simp only [spell, Chain.parts_map, List.mem_map] at hkey
    obtain ⟨key, -, rfl⟩ := hkey
    exact written_sortKey key
  change written (tokens ordering.byWord ++ tokens ordering.spell.keys) = _
  rw [written_append, tokens_leaf, written_keyword, written_commaChain _ hkeys]
  simp [sortKeys, spell, Keyword.spelling, Function.comp_def]

end WrittenOrdering

theorem written_groups (groups : WrittenGroups) :
    written (tokens groups) =
      ' ' :: ("BY " ++ commaList groups.groups.1 ++
        match groups.groups.2 with
        | none => ""
        | some c => " HAVING " ++ c.render).toList := by
  obtain ⟨byWord, names, having⟩ := groups
  change written (tokens byWord ++ (tokens names ++ tokens having)) = _
  rw [written_append, written_append, tokens_leaf, written_keyword, written_names]
  cases having with
  | none => simp [WrittenGroups.groups, Keyword.spelling]
  | some pair =>
    obtain ⟨keyword, condition⟩ := pair
    rw [tokens_some, tokens_pair, written_append, tokens_leaf, written_keyword, written_condition]
    simp [WrittenGroups.groups, Keyword.spelling]

theorem written_terminator {required : Bool} (terminator : WrittenTerminator required) :
    written (tokens terminator) = (if terminator.val.isSome then ";" else "").toList := by
  obtain ⟨- | leaf, h⟩ := terminator
  · rfl
  · change written [leaf.val] = _
    simp

/-- An announced clause is written as its keyword and the part that it announces. -/
theorem written_announced {τ : Type} [Phrase τ] {keyword : Keyword} (part : Announced keyword τ) :
    written (tokens part) =
      part.elim [] fun pair => ' ' :: (keyword.spelling.toList ++ written (tokens pair.2)) := by
  cases part with
  | none => rfl
  | some pair =>
    rw [tokens_some, tokens_pair, written_append, tokens_leaf, written_keyword]
    rfl

/-! ## Statements -/

namespace Derivation

variable {required : Bool}

/-- The statement with every direction in writing. -/
def spell (derivation : Derivation required) : Derivation required :=
  { derivation with
    ordering := derivation.ordering.map fun ordering => (ordering.1, ordering.2.spell) }

@[simp] theorem query_spell (derivation : Derivation required) :
    derivation.spell.query = derivation.query := by
  simp [spell, query, Function.comp_def]

/-- The rendered query, with a blank before it, is the text of its derivation. -/
theorem written_spell (derivation : Derivation required) :
    written (tokens derivation.spell) = ' ' :: derivation.query.render.toList := by
  obtain ⟨select, projection, fromWord, tables, filter, groups, ordering, terminator⟩ := derivation
  change written (tokens select ++ (tokens projection ++ (tokens fromWord ++ (tokens tables ++
    (tokens filter ++ (tokens groups ++
      (tokens (ordering.map fun ordering => (ordering.1, ordering.2.spell)) ++
        tokens terminator))))))) = _
  simp only [written_append, written_announced, tokens_leaf, written_keyword, written_projection,
    written_names, written_condition, written_groups, written_terminator]
  have hnames : ∀ names : WrittenNames, (WrittenNames.names names).isEmpty = false := fun _ => rfl
  have hkeys : ∀ ordering : WrittenOrdering, ordering.sortKeys.isEmpty = false := fun _ => rfl
  rcases filter with - | filter <;> rcases groups with - | groups <;>
    rcases ordering with - | ordering <;>
    simp [query, Query.render, hnames, hkeys, WrittenOrdering.written_spell, WrittenGroups.groups,
      Keyword.spelling] <;> rfl

end Derivation

/-! ## What is added -/

/-- The direction that is put in writing where none was written. -/
def Token.ascending : Token := ⟨.keyword .asc, Keyword.asc.spelling, .emptyAt 0⟩

section

variable {P : Token → Prop}

theorem Every.spell_sortKey {key : WrittenSortKey} (h : Every P key) (hasc : P .ascending) :
    Every P key.spell := by
  obtain ⟨column, direction⟩ := key
  obtain ⟨hcolumn, hdirection⟩ := (every_sortKey _).1 h
  refine (every_sortKey _).2 ⟨hcolumn, ?_⟩
  cases direction with
  | desc leaf => exact hdirection
  | asc leaf => exact hdirection
  | unwritten => exact (every_asc _).2 hasc

theorem Every.spell_ordering {ordering : WrittenOrdering} (h : Every P ordering)
    (hasc : P .ascending) : Every P ordering.spell := by
  obtain ⟨hby, hkeys⟩ := (every_ordering _).1 h
  obtain ⟨hfirst, hothers⟩ := (every_chain _).1 hkeys
  refine (every_ordering _).2 ⟨hby, (every_chain _).2 ⟨hfirst.spell_sortKey hasc, ?_⟩⟩
  intro other hother
  obtain ⟨other, hmem, rfl⟩ := List.mem_map.1 hother
  exact ⟨(hothers other hmem).1, (hothers other hmem).2.spell_sortKey hasc⟩

/-- Only directions are added when every direction is put in writing. -/
theorem Every.spell {required : Bool} {derivation : Derivation required}
    (h : Every P derivation) (hasc : P .ascending) : Every P derivation.spell := by
  obtain ⟨hselect, hprojection, hfrom, htables, hfilter, hgroups, hordering, hterminator⟩ :=
    (every_derivation _).1 h
  refine (every_derivation _).2
    ⟨hselect, hprojection, hfrom, htables, hfilter, hgroups, ?_, hterminator⟩
  obtain ⟨select, projection, fromWord, tables, filter, groups, ordering, terminator⟩ := derivation
  cases ordering with
  | none => exact every_none
  | some pair =>
    obtain ⟨hkeyword, hkeys⟩ := (every_pair _ _).1 ((every_some _).1 hordering)
    exact (every_some _).2 ((every_pair _ _).2 ⟨hkeyword, hkeys.spell_ordering hasc⟩)

end

end SelectLang

import SelectLang.Proofs.Rendering.Reparse

/-!
# The tokens of a rendered query

Rendering keeps the tokens of a statement one by one.  Of what a token says, which is its kind and
its text, no more is changed than the sign of inequality, which has two spellings; and no token is
added but a direction to each sort key that has none (`labels_tokenize_render`).
-/

namespace SelectLang

open Phrase (tokens)
open Text

/-! ## The two changes -/

/-- The label with the sign of inequality in plain form. -/
def respell (label : Kind × String) : Kind × String :=
  if label.1 = .comparator .ne then (label.1, "<>") else label

/-- The label says ASC or DESC. -/
def IsDirection (label : Kind × String) : Prop :=
  label.1 = .keyword .asc ∨ label.1 = .keyword .desc

instance : DecidablePred IsDirection := fun _ => inferInstanceAs (Decidable (_ ∨ _))

/-- The labels with ASC after each name that has no direction directly after it. -/
def addDirections : List (Kind × String) → List (Kind × String)
  | [] => []
  | label :: labels =>
      if label.1 = .identifier ∧ ∀ next ∈ labels.head?, ¬ IsDirection next then
        label :: (.keyword .asc, "ASC") :: addDirections labels
      else label :: addDirections labels

/-- The labels with ASC after each name behind ORDER that has no direction. -/
def spellDirections (labels : List (Kind × String)) : List (Kind × String) :=
  labels.takeWhile (·.1 ≠ .keyword .order) ++
    addDirections (labels.dropWhile (·.1 ≠ .keyword .order))

/-! ## Texts in plain form -/

/-- Only the sign of inequality has another text in plain form. -/
theorem plainLabel_of_isLexical {quotes : QuoteStyle} {token : Token}
    (h : token.IsLexical quotes) : token.plainLabel = respell token.label := by
  obtain ⟨kind, text, span⟩ := token
  obtain ⟨spelling, hlexeme⟩ := h
  dsimp only at hlexeme
  cases hlexeme with
  | keyword k _ _ => rfl
  | name _ _ => rfl
  | number _ => rfl
  | string _ _ => rfl
  | symbol hsymbol => cases hsymbol <;> rfl

/-! ## Directions -/

variable {xs ys : List (Kind × String)}

/-- Nothing is added where there are no names. -/
theorem addDirections_append_of_no_names (h : ∀ label ∈ xs, label.1 ≠ .identifier) :
    addDirections (xs ++ ys) = xs ++ addDirections ys := by
  induction xs with
  | nil => rfl
  | cons label xs ih =>
    obtain ⟨hlabel, hxs⟩ := List.forall_mem_cons.1 h
    rw [List.cons_append, addDirections, if_neg fun hname => hlabel hname.1, ih hxs,
      List.cons_append]

/-- Nothing is added before ORDER. -/
theorem spellDirections_append (h : ∀ label ∈ xs, label.1 ≠ .keyword .order) :
    spellDirections (xs ++ ys) = xs ++ spellDirections ys := by
  have hall : ∀ label ∈ xs, decide (label.1 ≠ .keyword .order) = true := by simpa using h
  rw [spellDirections, List.takeWhile_append_of_pos hall, List.dropWhile_append_of_pos hall,
    List.append_assoc]
  rfl

/-! ## What the tokens of a tree say -/

/-- The kinds and the texts of the tokens that a tree is written with. -/
def labels {τ : Type} [Phrase τ] (t : τ) : List (Kind × String) := (tokens t).map Token.label

theorem label_leaf {kind : Kind} (leaf : Leaf kind) : leaf.val.label = (kind, leaf.val.text) :=
  Prod.ext leaf.property rfl

theorem labels_chain_cons {τ : Type} [Phrase τ] {separator : Kind} (first next : τ)
    (leaf : Leaf separator) (others : List (Leaf separator × τ)) :
    labels (Chain.mk first ((leaf, next) :: others)) =
      labels first ++ (separator, leaf.val.text) :: labels (Chain.mk next others) := by
  simp [labels, label_leaf]

theorem labels_sortKey (key : WrittenSortKey) :
    labels key = (.identifier, key.column.val.text) :: labels key.direction := by
  change key.column.val.label :: labels key.direction = _
  rw [label_leaf]

theorem unwritten_or_exists_label (direction : WrittenDirection) :
    direction = .unwritten ∨
      direction.spell = direction ∧ ∃ label, labels direction = [label] ∧ IsDirection label := by
  cases direction with
  | desc leaf => exact Or.inr ⟨rfl, _, rfl, Or.inr leaf.property⟩
  | asc leaf => exact Or.inr ⟨rfl, _, rfl, Or.inl leaf.property⟩
  | unwritten => exact Or.inl rfl

/-- A direction is added to a sort key that has none. -/
theorem addDirections_sortKey (key : WrittenSortKey) (h : ∀ next ∈ ys.head?, ¬ IsDirection next) :
    addDirections (labels key ++ ys) = labels key.spell ++ addDirections ys := by
  obtain ⟨column, direction⟩ := key
  rw [labels_sortKey, labels_sortKey, WrittenSortKey.spell, List.cons_append, List.cons_append,
    addDirections]
  rcases unwritten_or_exists_label direction with rfl | ⟨hspell, label, hlabels, hlabel⟩
  · exact if_pos ⟨rfl, h⟩
  · have hname : ∀ label' ∈ [label], label'.1 ≠ .identifier := by
      rw [List.forall_mem_singleton]
      rcases hlabel with hkind | hkind <;> simp [hkind]
    rw [hspell, hlabels, if_neg (by simp [hlabel]), addDirections_append_of_no_names hname]

/-- Directions are added to the keys one by one: behind each of them but the last stands a comma. -/
theorem addDirections_sortKeys (keys : Chain .comma WrittenSortKey)
    (h : ∀ next ∈ ys.head?, ¬ IsDirection next) :
    addDirections (labels keys ++ ys) =
      labels (keys.map WrittenSortKey.spell) ++ addDirections ys := by
  obtain ⟨first, others⟩ := keys
  -- on the keys after the first, for any first key
  induction others generalizing first with
  | nil => simpa [labels, Chain.map] using addDirections_sortKey first h
  | cons other others ih =>
    obtain ⟨comma, next⟩ := other
    have hcomma : ∀ zs, addDirections ((.comma, comma.val.text) :: zs) =
        (.comma, comma.val.text) :: addDirections zs := fun zs => if_neg (by simp)
    calc addDirections (labels (Chain.mk first ((comma, next) :: others)) ++ ys)
        = addDirections (labels first ++
            (.comma, comma.val.text) :: (labels (Chain.mk next others) ++ ys)) := by
          rw [labels_chain_cons, List.append_assoc, List.cons_append]
      _ = labels first.spell ++ (.comma, comma.val.text) ::
            addDirections (labels (Chain.mk next others) ++ ys) := by
          rw [addDirections_sortKey first (by simp [IsDirection]), hcomma]
      _ = labels ((Chain.mk first ((comma, next) :: others)).map WrittenSortKey.spell) ++
            addDirections ys := by
          change _ = labels (Chain.mk first.spell ((comma, next.spell) :: _)) ++ _
          rw [ih next, labels_chain_cons, List.append_assoc, List.cons_append]
          rfl

/-! ## Statements -/

/-- The token is not the word ORDER. -/
def Token.NotOrder (token : Token) : Prop := token.kind ≠ .keyword .order

theorem notOrder_val {kind : Kind} (h : kind ≠ .keyword .order) (leaf : Leaf kind) :
    leaf.val.NotOrder := by
  rwa [Token.NotOrder, leaf.property]

/-- What stands behind the sort keys is a semicolon, or the end. -/
theorem kind_of_mem_ending {required : Bool} {terminator : WrittenTerminator required} {stop : Nat}
    {label : Kind × String} (h : label ∈ labels terminator ++ [(Token.eof stop).label]) :
    label.1 = .semicolon ∨ label.1 = .eof := by
  rcases List.mem_append.1 h with h | h
  · obtain ⟨token, htoken, rfl⟩ := List.mem_map.1 h
    obtain ⟨- | leaf, hrequired⟩ := terminator
    · cases htoken
    · obtain rfl := List.mem_singleton.1 htoken
      exact Or.inl leaf.property
  · rw [List.mem_singleton.1 h]
    exact Or.inr rfl

/-- Directions are added to the sort keys, and not to what stands behind them. -/
theorem spellDirections_ordering (ordering : Announced .order WrittenOrdering)
    (h : ∀ label ∈ ys, label.1 = .semicolon ∨ label.1 = .eof) :
    spellDirections (labels ordering ++ ys) =
      labels (ordering.map fun ordering => (ordering.1, ordering.2.spell)) ++ ys := by
  cases ordering with
  | none =>
    have hnotOrder : ∀ label ∈ ys, label.1 ≠ .keyword .order := by
      intro label hlabel
      rcases h label hlabel with hkind | hkind <;> simp [hkind]
    calc spellDirections ys = spellDirections (ys ++ []) := by rw [List.append_nil]
      _ = ys ++ [] := spellDirections_append hnotOrder
      _ = ys := List.append_nil ys
  | some pair =>
    obtain ⟨word, byWord, keys⟩ := pair
    have hname : ∀ label ∈ ys, label.1 ≠ .identifier := by
      intro label hlabel
      rcases h label hlabel with hkind | hkind <;> simp [hkind]
    have hdirection : ∀ next ∈ ys.head?, ¬ IsDirection next := by
      intro next hnext
      rcases h next (List.mem_of_mem_head? hnext) with hkind | hkind <;> simp [IsDirection, hkind]
    have hys := @addDirections_append_of_no_names ys [] hname
    rw [List.append_nil] at hys
    have hwords : ∀ keys, labels (some (word, WrittenOrdering.mk byWord keys)) =
        [(.keyword .order, word.val.text), (.keyword .by, byWord.val.text)] ++ labels keys := by
      intro keys
      change word.val.label :: byWord.val.label :: labels keys = _
      rw [label_leaf, label_leaf]
      rfl
    have hspell : ∀ zs, spellDirections
        ([(.keyword .order, word.val.text), (.keyword .by, byWord.val.text)] ++ zs) =
          [(.keyword .order, word.val.text), (.keyword .by, byWord.val.text)] ++
            addDirections zs := by
      intro zs
      simp [spellDirections, addDirections]
    rw [hwords, List.append_assoc, hspell, addDirections_sortKeys keys hdirection, hys,
      ← List.append_assoc, ← hwords]
    simp [addDirections, WrittenOrdering.spell]

/-- The directions that are added to what a statement says are those that are put in writing in its
derivation. -/
theorem spellDirections_labels {required : Bool} (derivation : Derivation required) (stop : Nat) :
    spellDirections (labels derivation ++ [(Token.eof stop).label]) =
      labels derivation.spell ++ [(Token.eof stop).label] := by
  obtain ⟨select, projection, fromWord, tables, filter, groups, ordering, terminator⟩ := derivation
  have hfront : Every Token.NotOrder (select, projection, fromWord, tables, filter, groups) := by
    simp only [every_pair, every_leaf]
    exact ⟨notOrder_val (by decide) _, (inner_projection _).imp (Token.IsInner.kind_ne rfl),
      notOrder_val (by decide) _, (inner_names _).imp (Token.IsInner.kind_ne rfl),
      every_announced (notOrder_val (by decide))
        (fun condition => (inner_condition condition).imp (Token.IsInner.kind_ne rfl)) _,
      every_announced (notOrder_val (by decide))
        (fun groups => (inner_groups groups).imp (Token.IsInner.kind_ne rfl)) _⟩
  have hlabels : ∀ ordering, labels (Derivation.mk select projection fromWord tables filter groups
      ordering terminator) =
        labels (select, projection, fromWord, tables, filter, groups) ++
          (labels ordering ++ labels terminator) := by
    intro ordering
    rw [labels, labels, labels, labels, ← List.map_append, ← List.map_append]
    simp only [tokens_pair, List.append_assoc]
    rfl
  have hnotOrder : ∀ label ∈ labels (select, projection, fromWord, tables, filter, groups),
      label.1 ≠ .keyword .order := by
    intro label hlabel
    obtain ⟨token, htoken, rfl⟩ := List.mem_map.1 hlabel
    exact hfront token htoken
  rw [hlabels, List.append_assoc, List.append_assoc, spellDirections_append hnotOrder,
    spellDirections_ordering ordering fun _ => kind_of_mem_ending, Derivation.spell, hlabels,
    List.append_assoc, List.append_assoc]

/-- Only the two changes are made to what the tokens of a statement say when it is rendered. -/
theorem labels_tokenize_render {dialect : Dialect} {source : String} {q : Query}
    (h : Query.parse dialect source = .ok q) :
    ∃ ts ts' : List Token, tokenize dialect source = .ok ts ∧
      tokenize .lenient q.render = .ok ts' ∧
      ts'.map Token.label = (spellDirections (ts.map Token.label)).map respell := by
  obtain ⟨derivation, stop, htokens, hlexemes, rfl⟩ := exists_tokenize_of_parse h
  have hlexical : Every (Token.IsLexical dialect.quotes) derivation.spell :=
    Every.spell hlexemes ⟨_, .keyword .asc (isWord_spelling .asc) rfl⟩
  have hwritable : ∀ token ∈ tokens derivation.spell, token.Writable .both := by
    intro token htoken
    refine writable_of_mem_spell hlexemes htoken fun hmisquoted => ?_
    rcases quoteFor_eq token.text with hquote | hquote <;>
      simp [Token.Misquoted, hquote, QuoteStyle.accepts] at hmisquoted
  obtain ⟨ts', stop', hcut, hlabels, -⟩ := cut_written derivation.written_spell.symm hwritable
  refine ⟨_, ts' ++ [Token.eof stop'], htokens, hcut, ?_⟩
  have hplain : (tokens derivation.spell).map Token.plainLabel =
      (labels derivation.spell).map respell := by
    rw [labels, List.map_map]
    exact List.map_congr_left fun token htoken => plainLabel_of_isLexical (hlexical token htoken)
  have hlabelled : (tokens derivation ++ [Token.eof stop]).map Token.label =
      labels derivation ++ [(Token.eof stop).label] := List.map_append
  calc (ts' ++ [Token.eof stop']).map Token.label
      = (labels derivation.spell).map respell ++ [(Token.eof stop).label].map respell := by
        rw [List.map_append, hlabels, hplain]
        rfl
    _ = (spellDirections (labels derivation ++ [(Token.eof stop).label])).map respell := by
        rw [spellDirections_labels, List.map_append]
    _ = _ := by rw [hlabelled]

/-- A sign of inequality is respelled, and a sort key gets its direction. -/
theorem labels_tokenize_ne_order :
    ∃ ts ts' : List Token,
      tokenize {} "select a from t where b != 1 order by c, d desc" = .ok ts ∧
      tokenize .lenient "SELECT a FROM t WHERE b <> 1 ORDER BY c ASC, d DESC" = .ok ts' ∧
      ts'.map Token.label = (spellDirections (ts.map Token.label)).map respell := by
  let q : Query :=
    { columns := .columns ["a"], tables := ["t"]
      filter := some (.leaf ⟨"b", .ne, .number "1"⟩)
      ordering := [⟨"c", .asc⟩, ⟨"d", .desc⟩] }
  have hparse : Query.parse {} "select a from t where b != 1 order by c, d desc" = .ok q := by
    decide +kernel
  have hrender : q.render = "SELECT a FROM t WHERE b <> 1 ORDER BY c ASC, d DESC" := by
    decide +kernel
  rw [← hrender]
  exact labels_tokenize_render hparse

end SelectLang

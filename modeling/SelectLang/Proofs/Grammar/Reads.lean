import Mathlib.Data.Set.Insert
import Mathlib.Logic.Equiv.Option
import SelectLang.Proofs.Grammar.Derivation
import SelectLang.Statement.Production

/-!
# Productions that read a part of the grammar

`Reads p value more` says all that a caller has to know of a production: it succeeds on what the
trees of the part are written with and on nothing else, its failures name tokens that do lead on,
and no two trees are written alike.  One token of lookahead is enough for this where the part is not
followed by a token that could also continue it; `more` is the set of the kinds of such tokens.

Each way to build productions keeps the property: `Reads.take` for single tokens, `Reads.bind` and
`Reads.map` for sequences, `reads_announced` and `reads_accept` for options, `reads_branch` for
alternatives and `reads_chain` for repetitions.
-/

namespace SelectLang

open Phrase (tokens)

/-- The kinds that a diagnostic names. -/
def Expected.kinds : Expected → List Kind
  | .kind k => [k]
  | .comparator =>
      [.comparator .eq, .comparator .ne, .comparator .lt, .comparator .le, .comparator .gt,
        .comparator .ge]
  | .operand => [.identifier, .number, .string]
  | .endOfStatement => []

/-- The tokens do not begin with one of these kinds. -/
def Stops (more : Set Kind) : List Token → Prop
  | [] => True
  | token :: _ => token.kind ∉ more

@[simp] theorem stops_nil (more : Set Kind) : Stops more [] := trivial

@[simp] theorem stops_cons (more : Set Kind) (token : Token) (rest : List Token) :
    Stops more (token :: rest) ↔ token.kind ∉ more := Iff.rfl

@[simp] theorem stops_empty (left : List Token) : Stops ∅ left := by
  cases left <;> simp

theorem Stops.mono {more more' : Set Kind} {left : List Token} (h : Stops more' left)
    (hsub : more ⊆ more') : Stops more left := by
  cases left with
  | nil => trivial
  | cons token rest => exact fun hmem => h (hsub hmem)

@[simp] theorem stops_insert {kind : Kind} {more : Set Kind} {left : List Token} :
    Stops (insert kind more) left ↔ Stops {kind} left ∧ Stops more left := by
  cases left <;> simp

/-- The production reads the trees of a part of the grammar, `value` being what a tree stands for
and `more` the kinds that could continue a part that is already complete. -/
structure Reads {α τ : Type} [Phrase τ] (p : Production α) (value : τ → α) (more : Set Kind) :
    Prop where
  nonempty : Nonempty τ
  sound : ∀ {ts : List Token} {a : α} {left : List Token}, p.run ts = (.ok a, left) →
    ∃ t, value t = a ∧ ts = tokens t ++ left
  complete : ∀ (t : τ) {left : List Token}, Stops more left →
    p.run (tokens t ++ left) = (.ok (value t), left)
  viable : ∀ {ts : List Token} {e : Expected} {left : List Token}, p.run ts = (.error e, left) →
    ∃ read, ts = read ++ left ∧ e.kinds ≠ [] ∧
      ∀ token : Token, token.kind ∈ e.kinds → ∃ (t : τ) (rest : List Token),
        tokens t = read ++ token :: rest
  unique : ∀ {t t' : τ} {left left' : List Token}, tokens t ++ left = tokens t' ++ left' →
    Stops more left → Stops more left' → t = t'

variable {α β τ σ : Type} [Phrase τ] [Phrase σ]

namespace Reads

/-! ## Other trees for the same part -/

/-- The same part read with less in sight: it may be followed by fewer kinds. -/
theorem mono {p : Production α} {value : τ → α} {more more' : Set Kind} (h : Reads p value more)
    (hsub : more ⊆ more') : Reads p value more' where
  nonempty := h.nonempty
  sound := h.sound
  complete t _ hleft := h.complete t (hleft.mono hsub)
  viable := h.viable
  unique heq hleft hleft' := h.unique heq (hleft.mono hsub) (hleft'.mono hsub)

/-- Trees of another shape will do if they correspond one to one. -/
theorem ofEquiv {p : Production α} {value : τ → α} {value' : σ → α} {more : Set Kind}
    (h : Reads p value more) (e : σ ≃ τ) (htokens : ∀ s, tokens s = tokens (e s))
    (hvalue : ∀ s, value' s = value (e s)) : Reads p value' more where
  nonempty := h.nonempty.map e.symm
  sound hrun := by
    obtain ⟨t, rfl, rfl⟩ := h.sound hrun
    exact ⟨e.symm t, by simp [hvalue], by simp [htokens]⟩
  complete s _ hleft := by
    rw [htokens, hvalue]
    exact h.complete (e s) hleft
  viable hrun := by
    obtain ⟨read, hts, hne, hnext⟩ := h.viable hrun
    refine ⟨read, hts, hne, fun token htoken => ?_⟩
    obtain ⟨t, rest, ht⟩ := hnext token htoken
    exact ⟨e.symm t, rest, by simp [htokens, ht]⟩
  unique heq hleft hleft' := by
    rw [htokens, htokens] at heq
    exact e.injective (h.unique heq hleft hleft')

/-! ## Single tokens -/

/-- A production for one token reads one-token trees if it looks for just these tokens and names
just their kinds. -/
theorem take [Nonempty τ] {expected : Expected} {view : Token → Option α} {value : τ → α}
    (leaf : τ → Token) (htokens : ∀ t : τ, tokens t = [leaf t])
    (hview : ∀ token a, view token = some a ↔ ∃ t, leaf t = token ∧ value t = a)
    (hne : expected.kinds ≠ [])
    (hkinds : ∀ token : Token, token.kind ∈ expected.kinds → ∃ t, leaf t = token)
    (hinj : Function.Injective leaf) : Reads (Production.take expected view) value ∅ where
  nonempty := inferInstance
  sound {ts a left} hrun := by
    cases ts with
    | nil => cases hrun
    | cons token rest =>
      simp only [Production.take] at hrun
      split at hrun
      · rename_i b hb
        obtain ⟨hab, rfl⟩ := Prod.mk.inj hrun
        obtain ⟨t, rfl, rfl⟩ := (hview token b).1 hb
        exact ⟨t, Except.ok.inj hab, by rw [htokens, List.singleton_append]⟩
      · cases (Prod.mk.inj hrun).1
  complete t left _ := by
    have hsome : view (leaf t) = some (value t) := (hview _ _).2 ⟨t, rfl, rfl⟩
    simp [Production.take, htokens, hsome]
  viable {ts e left} hrun := by
    have hstop : e = expected ∧ ts = left := by
      cases ts with
      | nil =>
        obtain ⟨he, rfl⟩ := Prod.mk.inj hrun
        exact ⟨(Except.error.inj he).symm, rfl⟩
      | cons token rest =>
        simp only [Production.take] at hrun
        split at hrun
        · cases (Prod.mk.inj hrun).1
        · obtain ⟨he, rfl⟩ := Prod.mk.inj hrun
          exact ⟨(Except.error.inj he).symm, rfl⟩
    obtain ⟨rfl, rfl⟩ := hstop
    refine ⟨[], rfl, hne, fun token htoken => ?_⟩
    obtain ⟨t, rfl⟩ := hkinds token htoken
    exact ⟨t, [], htokens t⟩
  unique {t t' left left'} heq _ _ := by
    rw [htokens, htokens] at heq
    exact hinj (List.cons.inj heq).1

/-! ## Sequences -/

/-- One part after another.  What follows the first part, be it the second or what comes after both,
must not continue it. -/
theorem bind {p : Production α} {f : α → Production β} {value : τ → α} {value' : τ → σ → β}
    {more more' : Set Kind} (hp : Reads p value more)
    (hf : ∀ x, Reads (f (value x)) (value' x) more')
    (hfollow : ∀ (y : σ) {left : List Token}, Stops more' left → Stops more (tokens y ++ left)) :
    Reads (p >>= f) (fun pair : τ × σ => value' pair.1 pair.2) more' where
  nonempty := by
    obtain ⟨x⟩ := hp.nonempty
    obtain ⟨y⟩ := (hf x).nonempty
    exact ⟨(x, y)⟩
  sound {ts b left} hrun := by
    rw [Production.run_bind] at hrun
    split at hrun
    · rename_i a mid hfirst
      obtain ⟨x, rfl, rfl⟩ := hp.sound hfirst
      obtain ⟨y, rfl, rfl⟩ := (hf x).sound hrun
      exact ⟨(x, y), rfl, by simp⟩
    · cases (Prod.mk.inj hrun).1
  complete pair left hleft := by
    obtain ⟨x, y⟩ := pair
    rw [Production.run_bind, tokens_pair, List.append_assoc, hp.complete x (hfollow y hleft)]
    exact (hf x).complete y hleft
  viable {ts e left} hrun := by
    rw [Production.run_bind] at hrun
    split at hrun
    · rename_i a mid hfirst
      obtain ⟨x, rfl, rfl⟩ := hp.sound hfirst
      obtain ⟨read, rfl, hne, hnext⟩ := (hf x).viable hrun
      refine ⟨tokens x ++ read, by simp, hne, fun token htoken => ?_⟩
      obtain ⟨y, rest, hy⟩ := hnext token htoken
      exact ⟨(x, y), rest, by simp [hy]⟩
    · rename_i e' mid hfirst
      obtain ⟨he, rfl⟩ := Prod.mk.inj hrun
      obtain rfl := Except.error.inj he
      obtain ⟨read, rfl, hne, hnext⟩ := hp.viable hfirst
      refine ⟨read, rfl, hne, fun token htoken => ?_⟩
      obtain ⟨x, rest, hx⟩ := hnext token htoken
      obtain ⟨y⟩ := (hf x).nonempty
      exact ⟨(x, y), rest ++ tokens y, by simp [hx]⟩
  unique {pair pair' left left'} heq hleft hleft' := by
    obtain ⟨x, y⟩ := pair
    obtain ⟨x', y'⟩ := pair'
    rw [tokens_pair, tokens_pair, List.append_assoc, List.append_assoc] at heq
    obtain rfl := hp.unique heq (hfollow y hleft) (hfollow y' hleft')
    obtain rfl := (hf x).unique (List.append_cancel_left heq) hleft hleft'
    rfl

end Reads

/-! ## Tokens of one kind -/

instance (kind : Kind) : Nonempty (Leaf kind) := ⟨⟨⟨kind, "", .emptyAt 0⟩, rfl⟩⟩

theorem reads_expect (kind : Kind) :
    Reads (Production.expect kind) (fun _ : Leaf kind => ()) ∅ := by
  refine Reads.take Subtype.val (fun _ => rfl) ?_ (List.cons_ne_nil _ _) ?_
    Subtype.val_injective
  · intro token a
    simp
  · intro token htoken
    exact ⟨⟨token, List.mem_singleton.1 htoken⟩, rfl⟩

/-! ## Options and alternatives -/

theorem run_accept_cons (kind : Kind) (token : Token) (rest : List Token) :
    (Production.accept kind).run (token :: rest) =
      if token.kind = kind then (.ok true, rest) else (.ok false, token :: rest) := rfl

theorem run_accept_of_stops {kind : Kind} {left : List Token} (h : Stops {kind} left) :
    (Production.accept kind).run left = (.ok false, left) := by
  cases left with
  | nil => rfl
  | cons token rest => rw [run_accept_cons, if_neg (by simpa using h)]

/-- Accepting a token of the kind takes one off, or finds that there is none. -/
theorem run_accept_cases (kind : Kind) (ts : List Token) :
    (∃ (leaf : Leaf kind) (rest : List Token), ts = leaf.val :: rest ∧
        (Production.accept kind).run ts = (.ok true, rest)) ∨
      Stops {kind} ts ∧ (Production.accept kind).run ts = (.ok false, ts) := by
  cases ts with
  | nil => exact Or.inr ⟨trivial, rfl⟩
  | cons token rest =>
    by_cases h : token.kind = kind
    · exact Or.inl ⟨⟨token, h⟩, rest, rfl, by rw [run_accept_cons, if_pos h]⟩
    · exact Or.inr ⟨by simpa using h, by rw [run_accept_cons, if_neg h]⟩

/-- Nothing at all, as a part. -/
instance : Phrase Unit := ⟨fun _ => []⟩

instance : Phrase (τ ⊕ σ) := ⟨Sum.elim tokens tokens⟩

@[simp] theorem tokens_inl (x : τ) : tokens (Sum.inl x : τ ⊕ σ) = tokens x := rfl

@[simp] theorem tokens_inr (y : σ) : tokens (Sum.inr y : τ ⊕ σ) = tokens y := rfl

theorem reads_pure (a : α) (more : Set Kind) :
    Reads (pure a : Production α) (fun _ : Unit => a) more where
  nonempty := inferInstance
  sound hrun := by
    obtain ⟨ha, rfl⟩ := Prod.mk.inj hrun
    exact ⟨(), Except.ok.inj ha, rfl⟩
  complete _ _ _ := rfl
  viable hrun := by cases (Prod.mk.inj hrun).1
  unique _ _ _ := rfl

/-- What has been read can be changed afterwards. -/
theorem Reads.map {p : Production α} {f : α → Production β} {g : α → β} {value : τ → α}
    {more : Set Kind} (hp : Reads p value more) (hf : ∀ a, f a = pure (g a)) :
    Reads (p >>= f) (fun x => g (value x)) more := by
  obtain rfl : f = fun a => pure (g a) := funext hf
  have hfollow : ∀ (x : Unit) {left : List Token}, Stops more left →
      Stops more (tokens x ++ left) := fun _ _ hleft => hleft
  have hpair : Reads (p >>= fun a => pure (g a)) (fun pair : τ × Unit => g (value pair.1)) more :=
    hp.bind (f := fun a => pure (g a)) (fun x => reads_pure (g (value x)) more) hfollow
  refine hpair.ofEquiv ⟨fun x => (x, ()), Prod.fst, fun _ => rfl, fun _ => rfl⟩ ?_ fun _ => rfl
  intro x
  exact (List.append_nil (tokens x)).symm

/-- One part where a token of the kind announces it, and another where none does.  The other part
must not begin with such a token, nor be followed by one if it can be empty. -/
theorem reads_branch (kind : Kind) {p q : Production α} {value : τ → α} {value' : σ → α}
    {more : Set Kind} (hp : Reads p value more) (hq : Reads q value' more)
    (hfollow : ∀ (y : σ) {left : List Token}, Stops more left →
      Stops {kind} (tokens y ++ left)) :
    Reads (Production.accept kind >>= fun found => if found = true then p else q)
      (Sum.elim (fun pair : Leaf kind × τ => value pair.2) value') more where
  nonempty := hq.nonempty.map Sum.inr
  sound {ts a left} hrun := by
    rw [Production.run_bind] at hrun
    rcases run_accept_cases kind ts with ⟨leaf, rest, rfl, haccept⟩ | ⟨-, haccept⟩
    · rw [haccept] at hrun
      obtain ⟨x, rfl, rfl⟩ := hp.sound hrun
      exact ⟨.inl (leaf, x), rfl, rfl⟩
    · rw [haccept] at hrun
      obtain ⟨y, rfl, rfl⟩ := hq.sound hrun
      exact ⟨.inr y, rfl, rfl⟩
  complete t left hleft := by
    rw [Production.run_bind]
    rcases t with ⟨leaf, x⟩ | y
    · rw [tokens_inl, tokens_pair, tokens_leaf, List.append_assoc, List.singleton_append,
        run_accept_cons, if_pos leaf.property]
      exact hp.complete x hleft
    · rw [tokens_inr, run_accept_of_stops (hfollow y hleft)]
      exact hq.complete y hleft
  viable {ts e left} hrun := by
    rw [Production.run_bind] at hrun
    rcases run_accept_cases kind ts with ⟨leaf, rest, rfl, haccept⟩ | ⟨-, haccept⟩
    · rw [haccept] at hrun
      obtain ⟨read, rfl, hne, hnext⟩ := hp.viable hrun
      refine ⟨leaf.val :: read, rfl, hne, fun token htoken => ?_⟩
      obtain ⟨x, rest, hx⟩ := hnext token htoken
      exact ⟨.inl (leaf, x), rest, by simp [hx]⟩
    · rw [haccept] at hrun
      obtain ⟨read, rfl, hne, hnext⟩ := hq.viable hrun
      refine ⟨read, rfl, hne, fun token htoken => ?_⟩
      obtain ⟨y, rest, hy⟩ := hnext token htoken
      exact ⟨.inr y, rest, hy⟩
  unique {t t' left left'} heq hleft hleft' := by
    -- a tree on the left begins with the announcing token, one on the right does not
    have hclash : ∀ (leaf : Leaf kind) (x : τ) (y : σ) {l l' : List Token}, Stops more l' →
        tokens (leaf, x) ++ l ≠ tokens y ++ l' := by
      intro leaf x y l l' hl' h
      have hstop := hfollow y hl'
      rw [← h] at hstop
      exact hstop leaf.property
    rcases t with ⟨leaf, x⟩ | y <;> rcases t' with ⟨leaf', x'⟩ | y'
    · simp only [tokens_inl, tokens_pair, tokens_leaf, List.singleton_append] at heq
      obtain ⟨hleaf, htail⟩ := List.cons.inj heq
      rw [Subtype.ext hleaf, hp.unique htail hleft hleft']
    · exact absurd heq (hclash leaf x y' hleft')
    · exact absurd heq.symm (hclash leaf' x' y hleft)
    · rw [hq.unique heq hleft hleft']

/-- A token of the kind, or nothing. -/
theorem reads_accept (kind : Kind) :
    Reads (Production.accept kind) (fun found : Option (Leaf kind) => found.isSome) {kind} where
  nonempty := inferInstance
  sound {ts a left} hrun := by
    rcases run_accept_cases kind ts with ⟨leaf, rest, rfl, haccept⟩ | ⟨-, haccept⟩
    · obtain ⟨ha, rfl⟩ := Prod.mk.inj (haccept.symm.trans hrun)
      exact ⟨some leaf, Except.ok.inj ha, rfl⟩
    · obtain ⟨ha, rfl⟩ := Prod.mk.inj (haccept.symm.trans hrun)
      exact ⟨none, Except.ok.inj ha, rfl⟩
  complete found left hleft := by
    cases found with
    | none => exact run_accept_of_stops hleft
    | some leaf => exact if_pos leaf.property
  viable {ts e left} hrun := by
    rcases run_accept_cases kind ts with ⟨leaf, rest, rfl, haccept⟩ | ⟨-, haccept⟩ <;>
      cases (Prod.mk.inj (haccept.symm.trans hrun)).1
  unique {found found' left left'} heq hleft hleft' := by
    rcases found with - | leaf <;> rcases found' with - | leaf'
    · rfl
    · subst heq
      exact absurd leaf'.property hleft
    · subst heq
      exact absurd leaf.property hleft'
    · exact congrArg some (Subtype.ext (List.cons.inj heq).1)

/-- A part that a keyword announces, or nothing. -/
theorem reads_announced {p : Production α} {value : τ → α} {keyword : Keyword} {more : Set Kind}
    (hp : Reads p value more) :
    Reads (Production.announced (.keyword keyword) p)
      (fun part : Announced keyword τ => part.map fun pair => value pair.2)
      (insert (.keyword keyword) more) := by
  have hsome := (hp.mono (Set.subset_insert (.keyword keyword) more)).map
    (f := fun a => pure (some a)) (g := some) fun _ => rfl
  have hbranch := reads_branch (.keyword keyword) hsome (reads_pure none _)
    fun _ _ hleft => (stops_insert.1 hleft).1
  refine hbranch.ofEquiv (Equiv.optionEquivSumPUnit (Leaf (.keyword keyword) × τ)) ?_ ?_
  · rintro (_ | _) <;> rfl
  · rintro (_ | _) <;> rfl

/-- An announced part keeps the parts around it apart, and so does its absence. -/
theorem stops_announced {keyword : Keyword} {more : Set Kind} (hkeyword : .keyword keyword ∉ more)
    (part : Announced keyword τ) {left : List Token} (hleft : Stops more left) :
    Stops more (tokens part ++ left) := by
  cases part with
  | none => exact hleft
  | some pair =>
    obtain ⟨leaf, x⟩ := pair
    simpa [leaf.property] using hkeyword

/-! ## Repetitions -/

section

variable {part : Production α} {value : τ → α} {separator : Kind} {more : Set Kind}

theorem runOthers_of_stops (part : Production α) {left : List Token} (h : Stops {separator} left) :
    Production.runOthers separator part left = (.ok [], left) := by
  cases left with
  | nil => rw [Production.runOthers]
  | cons token rest => rw [Production.runOthers, if_neg (by simpa using h)]

theorem runOthers_cons (part : Production α) (leaf : Leaf separator) (rest : List Token) :
    Production.runOthers separator part (leaf.val :: rest) =
      match part.run rest with
      | (.error e, left) => (.error e, left)
      | (.ok a, left) =>
          match Production.runOthers separator part left with
          | (.error e, left) => (.error e, left)
          | (.ok others, left) => (.ok (a :: others), left) := by
  rw [Production.runOthers, if_pos leaf.property]
  rcases part.run rest with ⟨e | a, left⟩
  · rfl
  · rfl

/-- The parts behind a separator each: none, or one and those behind it. -/
theorem others_eq (separator : Kind) (part : Production α) :
    Production.others separator part =
      (Production.accept separator >>= fun found =>
        if found = true then do
          let first ← part
          let others ← Production.others separator part
          return first :: others
        else return []) := by
  refine Production.ext (funext fun ts => ?_)
  rcases run_accept_cases separator ts with ⟨leaf, rest, rfl, haccept⟩ | ⟨hstops, haccept⟩
  · rw [Production.run_bind, haccept, Production.run_others, runOthers_cons]
    dsimp only
    rw [if_pos rfl, Production.run_bind]
    rcases part.run rest with ⟨e | a, left⟩
    · rfl
    · dsimp only
      rw [Production.run_bind, Production.run_others]
      rcases Production.runOthers separator part left with ⟨e | others, left'⟩ <;> rfl
  · rw [Production.run_bind, haccept]
    exact runOthers_of_stops part hstops

/-- What comes after a separator cannot be taken for a continuation of the part before it. -/
theorem stops_others (hseparator : separator ∉ more) (others : List (Leaf separator × τ))
    {left : List Token} (hleft : Stops (insert separator more) left) :
    Stops more (tokens others ++ left) := by
  cases others with
  | nil => exact (stops_insert.1 hleft).2
  | cons other others =>
    obtain ⟨leaf, x⟩ := other
    simpa [leaf.property] using hseparator

/-- Parts that follow a separator each. -/
theorem reads_others (hpart : Reads part value more) (hseparator : separator ∉ more) :
    Reads (Production.others separator part)
      (fun others : List (Leaf separator × τ) => others.map fun other => value other.2)
      (insert separator more) where
  nonempty := ⟨[]⟩
  sound {ts a left} hrun := by
    rw [Production.run_others] at hrun
    fun_induction Production.runOthers separator part ts generalizing a left with
    | case1 =>
      obtain ⟨ha, rfl⟩ := Prod.mk.inj hrun
      exact ⟨[], Except.ok.inj ha, rfl⟩
    | case2 => cases (Prod.mk.inj hrun).1
    | case3 => cases (Prod.mk.inj hrun).1
    | case4 token rest htoken b mid hmid others last hothers ih =>
      obtain ⟨ha, rfl⟩ := Prod.mk.inj hrun
      obtain ⟨x, rfl, rfl⟩ := hpart.sound hmid
      obtain ⟨ys, rfl, rfl⟩ := ih hothers
      exact ⟨(⟨token, htoken⟩, x) :: ys, Except.ok.inj ha, by simp⟩
    | case5 token rest htoken =>
      obtain ⟨ha, rfl⟩ := Prod.mk.inj hrun
      exact ⟨[], Except.ok.inj ha, rfl⟩
  complete others left hleft := by
    rw [Production.run_others]
    induction others with
    | nil => exact runOthers_of_stops part (stops_insert.1 hleft).1
    | cons other others ih =>
      obtain ⟨leaf, x⟩ := other
      have hx := hpart.complete x (stops_others hseparator others hleft)
      simp only [tokens_cons, tokens_pair, tokens_leaf, List.append_assoc, List.cons_append,
        List.nil_append]
      rw [runOthers_cons, hx]
      dsimp only
      rw [ih]
      rfl
  viable {ts e left} hrun := by
    rw [Production.run_others] at hrun
    fun_induction Production.runOthers separator part ts generalizing e left with
    | case1 => cases (Prod.mk.inj hrun).1
    | case2 token rest htoken e' mid hmid =>
      obtain ⟨he, rfl⟩ := Prod.mk.inj hrun
      obtain rfl := Except.error.inj he
      obtain ⟨read, rfl, hne, hnext⟩ := hpart.viable hmid
      refine ⟨token :: read, rfl, hne, fun next hkind => ?_⟩
      obtain ⟨x, rest, hx⟩ := hnext next hkind
      exact ⟨[(⟨token, htoken⟩, x)], rest, by simp [hx]⟩
    | case3 token rest htoken b mid hmid e' last hothers ih =>
      obtain ⟨he, rfl⟩ := Prod.mk.inj hrun
      obtain rfl := Except.error.inj he
      obtain ⟨x, rfl, rfl⟩ := hpart.sound hmid
      obtain ⟨read, rfl, hne, hnext⟩ := ih hothers
      refine ⟨token :: (tokens x ++ read), by simp, hne, fun next hkind => ?_⟩
      obtain ⟨ys, rest, hys⟩ := hnext next hkind
      exact ⟨(⟨token, htoken⟩, x) :: ys, rest, by simp [hys]⟩
    | case4 => cases (Prod.mk.inj hrun).1
    | case5 => cases (Prod.mk.inj hrun).1
  unique {others others' left left'} heq hleft hleft' := by
    induction others generalizing others' with
    | nil =>
      cases others' with
      | nil => rfl
      | cons other' others' =>
        subst heq
        exact absurd other'.1.property (stops_insert.1 hleft).1
    | cons other others ih =>
      cases others' with
      | nil =>
        subst heq
        exact absurd other.1.property (stops_insert.1 hleft').1
      | cons other' others' =>
        obtain ⟨leaf, x⟩ := other
        obtain ⟨leaf', x'⟩ := other'
        simp only [tokens_cons, tokens_pair, tokens_leaf, List.append_assoc,
          List.singleton_append] at heq
        obtain ⟨hleaf, htail⟩ := List.cons.inj heq
        obtain rfl := hpart.unique htail (stops_others hseparator others hleft)
          (stops_others hseparator others' hleft')
        rw [Subtype.ext hleaf, ih (List.append_cancel_left htail)]

/-- One part or more, with separators between them. -/
theorem reads_chain (hpart : Reads part value more) (hseparator : separator ∉ more) :
    Reads (Production.chain separator part)
      (fun chain : Chain separator τ =>
        (value chain.first, chain.others.map fun other => value other.2))
      (insert separator more) := by
  have hothers := reads_others hpart hseparator
  have hpair := hpart.bind
    (f := fun first => Production.others separator part >>= fun others => pure (first, others))
    (fun x => hothers.map (g := fun others => (value x, others)) fun _ => rfl)
    fun others _ hleft => stops_others hseparator others hleft
  exact hpair.ofEquiv
    ⟨fun chain => (chain.first, chain.others), fun pair => ⟨pair.1, pair.2⟩,
      fun _ => rfl, fun _ => rfl⟩ (fun _ => rfl) fun _ => rfl

end

end SelectLang

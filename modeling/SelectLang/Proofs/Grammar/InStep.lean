import SelectLang.Proofs.Grammar.Reads
import SelectLang.Proofs.Query.Similar
import SelectLang.Statement.Grammar

/-!
# Productions in step

A production sees the kinds of the tokens that it reads and of the one after them, and nothing else:
on similar tokens, before a token of the same kind, it stops at the same place with the same failure
or with a similar result (`inStep_name` to `inStep_statement`).
-/

namespace SelectLang

variable {α β γ δ : Type} {S : String → String → Prop} {R : α → β → Prop} {R' : γ → δ → Prop}

/-- Related results, or the same failure. -/
inductive Agree (R : α → β → Prop) : Except Expected α → Except Expected β → Prop
  | ok {a : α} {b : β} (h : R a b) : Agree R (.ok a) (.ok b)
  | error (e : Expected) : Agree R (.error e) (.error e)

/-- Both lists end, or begin with tokens of one kind. -/
def SameNext (left left' : List Token) : Prop :=
  left.head?.map Token.kind = left'.head?.map Token.kind

/-- The second production follows the first on tokens similar to those that the first one reads. -/
def InStep (S : String → String → Prop) (R : α → β → Prop) (p : Production α)
    (q : Production β) : Prop :=
  ∀ ⦃read left : List Token⦄ ⦃r : Except Expected α⦄, p.run (read ++ left) = (r, left) →
    ∀ ⦃read' left' : List Token⦄, List.Forall₂ (Token.Similar S) read read' →
      SameNext left left' → ∃ r', q.run (read' ++ left') = (r', left') ∧ Agree R r r'

/-! ## Sequences -/

theorem SameNext.append {read read' left left' : List Token} (h : SameNext left left')
    (hread : List.Forall₂ (Token.Similar S) read read') :
    SameNext (read ++ left) (read' ++ left') := by
  cases hread with
  | nil => exact h
  | cons htoken _ => simp [SameNext, htoken.kind]

theorem exists_append_of_forall₂ {T : α → β → Prop} {xs ys : List α} {zs : List β}
    (h : List.Forall₂ T (xs ++ ys) zs) :
    ∃ xs' ys', zs = xs' ++ ys' ∧ List.Forall₂ T xs xs' ∧ List.Forall₂ T ys ys' := by
  induction xs generalizing zs with
  | nil => exact ⟨[], zs, rfl, .nil, h⟩
  | cons x xs ih =>
    cases h with
    | cons hx hrest =>
      obtain ⟨xs', ys', rfl, hxs, hys⟩ := ih hrest
      exact ⟨_ :: xs', ys', rfl, .cons hx hxs, hys⟩

/-- What a first part reads is a prefix of all that is read. -/
theorem exists_append_of_run {p : Production α} {read left mid : List Token}
    {r : Except Expected α} (hrun : p.run (read ++ left) = (r, mid)) (hleft : left <:+ mid) :
    ∃ first second, read = first ++ second ∧ mid = second ++ left := by
  have hmid := p.suffix_run (read ++ left)
  rw [hrun] at hmid
  obtain ⟨second, rfl⟩ := hleft
  obtain ⟨first, hfirst⟩ := hmid
  refine ⟨first, second, ?_, rfl⟩
  exact (List.append_cancel_right ((List.append_assoc _ _ _).trans hfirst)).symm

namespace InStep

protected theorem pure {a : α} {b : β} (h : R a b) : InStep S R (pure a) (pure b) := by
  intro read left r hrun read' left' hread _
  rw [Production.run_pure] at hrun
  obtain ⟨rfl, hleft⟩ := Prod.mk.inj hrun
  obtain rfl := List.append_left_eq_self.1 hleft
  cases hread
  exact ⟨.ok b, rfl, .ok h⟩

/-- What the first part reads is a prefix of all that is read, and the rest of it, with what is
left, stands before the second part. -/
theorem bind {p : Production α} {q : Production β} {f : α → Production γ} {g : β → Production δ}
    (hp : InStep S R p q) (hf : ∀ a b, R a b → InStep S R' (f a) (g b)) :
    InStep S R' (p >>= f) (q >>= g) := by
  intro read left r hrun read' left' hread hnext
  rw [Production.run_bind] at hrun
  split at hrun
  · rename_i a mid hfirst
    have hleft := (f a).suffix_run mid
    rw [hrun] at hleft
    obtain ⟨first, second, rfl, rfl⟩ := exists_append_of_run hfirst hleft
    obtain ⟨first', second', rfl, hfirsts, hseconds⟩ := exists_append_of_forall₂ hread
    rw [List.append_assoc] at hfirst
    obtain ⟨r', hq, hagree⟩ := hp hfirst hfirsts (hnext.append hseconds)
    cases hagree with
    | ok hab =>
      obtain ⟨r'', hg, hagree⟩ := hf _ _ hab hrun hseconds hnext
      exact ⟨r'', by rw [Production.run_bind, List.append_assoc, hq]; exact hg, hagree⟩
  · rename_i e mid hfirst
    obtain ⟨rfl, rfl⟩ := Prod.mk.inj hrun
    obtain ⟨r', hq, hagree⟩ := hp hfirst hread hnext
    cases hagree with
    | error e => exact ⟨.error e, by rw [Production.run_bind, hq], .error e⟩

/-! ## Single tokens -/

/-- A token that is read is not among those left. -/
theorem cons_append_ne_self (token : Token) (rest left : List Token) :
    (token :: rest) ++ left ≠ left := by
  intro h
  cases List.append_left_eq_self.1 h

/-- What a production for one token looks for shows on similar tokens alike. -/
theorem take (expected : Expected) {view : Token → Option α} {view' : Token → Option β}
    (hview : ∀ {t t' : Token}, t.Similar S t' → Option.Rel R (view t) (view' t'))
    (hkind : ∀ {t t' : Token}, t.kind = t'.kind → (view t).isSome = (view' t').isSome) :
    InStep S R (Production.take expected view) (Production.take expected view') := by
  intro read left r hrun read' left' hread hnext
  cases hread with
  | nil =>
    cases left with
    | nil =>
      cases left' with
      | nil =>
        obtain ⟨rfl, -⟩ := Prod.mk.inj hrun
        exact ⟨_, rfl, .error expected⟩
      | cons token' rest' => simp [SameNext] at hnext
    | cons token rest =>
      cases left' with
      | nil => simp [SameNext] at hnext
      | cons token' rest' =>
        have hsame := @hkind token token' (by simpa [SameNext] using hnext)
        rw [List.nil_append] at hrun ⊢
        simp only [Production.take] at hrun ⊢
        split at hrun
        · exact absurd (Prod.mk.inj hrun).2.symm (List.cons_ne_self _ _)
        · rename_i hnone
          obtain ⟨rfl, -⟩ := Prod.mk.inj hrun
          rw [hnone, Option.isSome_none, eq_comm, Option.isSome_eq_false_iff,
            Option.isNone_iff_eq_none] at hsame
          exact ⟨.error expected, by rw [hsame], .error expected⟩
  | @cons token token' rest rest' htoken hrest =>
    have hrel := hview htoken
    rw [List.cons_append] at hrun ⊢
    simp only [Production.take] at hrun ⊢
    split at hrun
    · rename_i a ha
      obtain ⟨rfl, hleft⟩ := Prod.mk.inj hrun
      obtain rfl := List.append_left_eq_self.1 hleft
      cases hrest
      rw [ha] at hrel
      generalize hb : view' token' = found at hrel
      cases hrel with
      | @some _ b hab => exact ⟨.ok b, rfl, .ok hab⟩
    · exact absurd (Prod.mk.inj hrun).2 (cons_append_ne_self token rest left)

protected theorem expect (kind : Kind) :
    InStep S (fun _ _ => True) (Production.expect kind) (Production.expect kind) := by
  refine take _ ?_ ?_
  · intro t t' h
    rw [h.kind]
    split
    · exact .some trivial
    · exact .none
  · intro t t' h
    rw [h]

protected theorem accept (kind : Kind) :
    InStep S Eq (Production.accept kind) (Production.accept kind) := by
  intro read left r hrun read' left' hread hnext
  cases hread with
  | nil =>
    rw [List.nil_append] at hrun ⊢
    rcases run_accept_cases kind left with ⟨leaf, rest, rfl, haccept⟩ | ⟨hstops, haccept⟩
    · exact absurd (Prod.mk.inj (haccept.symm.trans hrun)).2.symm (List.cons_ne_self _ _)
    · obtain ⟨rfl, -⟩ := Prod.mk.inj (haccept.symm.trans hrun)
      refine ⟨.ok false, run_accept_of_stops ?_, .ok rfl⟩
      cases left <;> cases left' <;> simp_all [SameNext]
  | @cons token token' rest rest' htoken hrest =>
    rw [List.cons_append, run_accept_cons] at hrun ⊢
    rw [← htoken.kind]
    split at hrun
    · rename_i hkind
      obtain ⟨rfl, hleft⟩ := Prod.mk.inj hrun
      obtain rfl := List.append_left_eq_self.1 hleft
      cases hrest
      exact ⟨.ok true, if_pos hkind, .ok rfl⟩
    · exact absurd (Prod.mk.inj hrun).2 (cons_append_ne_self token rest left)

protected theorem finish :
    InStep S (fun _ _ => True) Production.finish Production.finish := by
  intro read left r hrun read' left' hread hnext
  cases hread with
  | nil =>
    cases left <;> cases left' <;> simp [SameNext] at hnext
    · obtain ⟨rfl, -⟩ := Prod.mk.inj hrun
      exact ⟨_, rfl, .ok trivial⟩
    · obtain ⟨rfl, -⟩ := Prod.mk.inj hrun
      exact ⟨_, rfl, .error _⟩
  | @cons token _ rest _ htoken hrest =>
    exact absurd (Prod.mk.inj hrun).2 (cons_append_ne_self token rest left)

/-! ## Options and repetitions -/

theorem branch {kind : Kind} {p p' : Production α} {q q' : Production β} (hp : InStep S R p q)
    (hp' : InStep S R p' q') :
    InStep S R (Production.accept kind >>= fun found => if found = true then p else p')
      (Production.accept kind >>= fun found => if found = true then q else q') := by
  refine InStep.bind (InStep.accept kind) ?_
  rintro found _ rfl
  cases found with
  | false => exact hp'
  | true => exact hp

theorem announced {kind : Kind} {p : Production α} {q : Production β} (h : InStep S R p q) :
    InStep S (Option.Rel R) (Production.announced kind p) (Production.announced kind q) :=
  branch (h.bind fun _ _ hab => InStep.pure (.some hab)) (InStep.pure .none)

/-- A token that comes before what is left is among those read. -/
theorem exists_cons_of_suffix {token : Token} {rest read left : List Token}
    (h : token :: rest = read ++ left) (hsuffix : left <:+ rest) :
    ∃ read', read = token :: read' ∧ rest = read' ++ left := by
  cases read with
  | nil =>
    have hlen := hsuffix.length_le
    rw [← show token :: rest = left from h, List.length_cons] at hlen
    omega
  | cons first read' =>
    obtain ⟨rfl, hrest⟩ := List.cons.inj h
    exact ⟨read', rfl, hrest⟩

/-- A round that goes well: after the separator both read related parts, and what the rounds after
it read is similar again. -/
theorem exists_round {separator : Kind} {p : Production α} {q : Production β} (h : InStep S R p q)
    {token : Token} {rest mid read left read' left' : List Token} {a : α}
    {r : Except Expected (List α)} (hrun : p.run rest = (.ok a, mid))
    (hothers : Production.runOthers separator p mid = (r, left))
    (hts : token :: rest = read ++ left) (hread : List.Forall₂ (Token.Similar S) read read')
    (hnext : SameNext left left') :
    ∃ token' rest' b second second', read' ++ left' = token' :: rest' ∧ token'.kind = token.kind ∧
      q.run rest' = (.ok b, second' ++ left') ∧ R a b ∧ mid = second ++ left ∧
      List.Forall₂ (Token.Similar S) second second' := by
  have hleft := Production.runOthers_suffix separator p mid
  rw [hothers] at hleft
  have hrest := p.suffix_run rest
  rw [hrun] at hrest
  obtain ⟨read, rfl, rfl⟩ := exists_cons_of_suffix hts (hleft.trans hrest)
  obtain ⟨first, second, rfl, rfl⟩ := exists_append_of_run hrun hleft
  cases hread with
  | @cons _ token' _ read' htoken hread =>
    obtain ⟨first', second', rfl, hfirsts, hseconds⟩ := exists_append_of_forall₂ hread
    rw [List.append_assoc] at hrun
    obtain ⟨r', hq, hagree⟩ := h hrun hfirsts (hnext.append hseconds)
    cases hagree with
    | @ok _ b hab =>
      refine ⟨token', first' ++ second' ++ left', b, second, second', rfl, htoken.kind.symm, ?_,
        hab, rfl, hseconds⟩
      rw [List.append_assoc, hq]

/-- Parts that follow a separator each, read in step one after the other. -/
theorem others {separator : Kind} {p : Production α} {q : Production β} (h : InStep S R p q) :
    InStep S (List.Forall₂ R) (Production.others separator p) (Production.others separator q) := by
  intro read left r hrun read' left' hread hnext
  rw [Production.run_others] at hrun ⊢
  generalize hts : read ++ left = ts at hrun
  fun_induction Production.runOthers separator p ts generalizing read read' left r with
  | case1 =>
    obtain ⟨rfl, rfl⟩ := Prod.mk.inj hrun
    obtain ⟨rfl, -⟩ := List.append_eq_nil_iff.1 hts
    cases hread
    cases left' with
    | nil => exact ⟨.ok [], runOthers_of_stops q trivial, .ok .nil⟩
    | cons token' rest' => simp [SameNext] at hnext
  | case2 token rest htoken e mid hmid =>
    obtain ⟨rfl, rfl⟩ := Prod.mk.inj hrun
    have hsuffix := p.suffix_run rest
    rw [hmid] at hsuffix
    obtain ⟨read, rfl, rfl⟩ := exists_cons_of_suffix hts.symm hsuffix
    cases hread with
    | @cons _ token' _ read' htoken' hread =>
      obtain ⟨r', hq, hagree⟩ := h hmid hread hnext
      cases hagree with
      | error e =>
        refine ⟨.error e, ?_, .error e⟩
        rw [List.cons_append, runOthers_cons q ⟨token', htoken'.kind.symm.trans htoken⟩, hq]
  | case3 token rest htoken a mid hmid e last hothers ih =>
    obtain ⟨rfl, rfl⟩ := Prod.mk.inj hrun
    obtain ⟨token', rest', b, second, second', hts', htoken', hq, hab, rfl, hseconds⟩ :=
      exists_round h hmid hothers hts.symm hread hnext
    obtain ⟨r', hq', hagree⟩ := ih hseconds hnext rfl hothers
    cases hagree with
    | error e =>
      refine ⟨.error e, ?_, .error e⟩
      rw [hts', runOthers_cons q ⟨token', htoken'.trans htoken⟩, hq]
      dsimp only
      rw [hq']
  | case4 token rest htoken a mid hmid as last hothers ih =>
    obtain ⟨rfl, rfl⟩ := Prod.mk.inj hrun
    obtain ⟨token', rest', b, second, second', hts', htoken', hq, hab, rfl, hseconds⟩ :=
      exists_round h hmid hothers hts.symm hread hnext
    obtain ⟨r', hq', hagree⟩ := ih hseconds hnext rfl hothers
    cases hagree with
    | @ok _ bs habs =>
      refine ⟨.ok (b :: bs), ?_, .ok (.cons hab habs)⟩
      rw [hts', runOthers_cons q ⟨token', htoken'.trans htoken⟩, hq]
      dsimp only
      rw [hq']
  | case5 token rest htoken =>
    obtain ⟨rfl, rfl⟩ := Prod.mk.inj hrun
    obtain rfl := List.append_left_eq_self.1 hts
    cases hread
    refine ⟨.ok [], runOthers_of_stops q ?_, .ok .nil⟩
    cases left' <;> simp_all [SameNext]

/-- A first part, and the others in step after it. -/
theorem chain {separator : Kind} {p : Production α} {q : Production β} (h : InStep S R p q) :
    InStep S (fun pair pair' => R pair.1 pair'.1 ∧ List.Forall₂ R pair.2 pair'.2)
      (Production.chain separator p) (Production.chain separator q) :=
  h.bind fun _ _ hfirst => h.others.bind fun _ _ hothers => InStep.pure ⟨hfirst, hothers⟩

end InStep

/-! ## The grammar -/

open Production

theorem inStep_name : InStep S S name name := by
  refine InStep.take _ ?_ ?_
  · intro t t' h
    rw [← h.kind]
    split
    · rename_i hkind
      exact .some (h.text (Or.inl hkind))
    · exact .none
  · intro t t' h
    rw [h]
    split <;> rfl

theorem inStep_names : InStep S (List.Forall₂ S) names names := by
  refine InStep.bind (InStep.chain inStep_name) ?_
  intro pair pair' h
  exact InStep.pure (.cons h.1 h.2)

theorem inStep_projection :
    InStep S (Projection.Similar S) projection projection := by
  refine InStep.branch (InStep.pure .all) ?_
  exact inStep_names.bind fun _ _ h => InStep.pure (.columns h)

theorem inStep_comparator : InStep S Eq comparator comparator := by
  refine InStep.take _ ?_ ?_
  · intro t t' h
    rw [h.kind]
    cases t'.kind.comparator? with
    | none => exact .none
    | some op => exact .some rfl
  · intro t t' h
    rw [h]

theorem inStep_operand : InStep S (Operand.Similar S) operand operand := by
  refine InStep.take _ ?_ ?_
  · intro t t' h
    have htext := h.text
    rw [operandOf?, operandOf?, ← h.kind]
    cases hkind : t.kind
    case identifier => exact .some (.column (htext (Or.inl hkind)))
    case number => exact .some (.number (htext (Or.inr (Or.inl hkind))))
    case string => exact .some (.string (htext (Or.inr (Or.inr hkind))))
    all_goals exact .none
  · intro t t' h
    rw [operandOf?, operandOf?, h]
    cases t'.kind <;> rfl

theorem inStep_comparison : InStep S (Comparison.Similar S) comparison comparison := by
  refine inStep_name.bind fun _ _ hcolumn => ?_
  refine inStep_comparator.bind fun _ _ hop => ?_
  exact inStep_operand.bind fun _ _ hoperand => InStep.pure ⟨hcolumn, hop, hoperand⟩

theorem inStep_conjunction : InStep S (Condition.Similar S) conjunction conjunction := by
  refine InStep.bind (InStep.chain inStep_comparison) ?_
  rintro ⟨first, others⟩ ⟨first', others'⟩ ⟨hfirst, hothers⟩
  refine InStep.pure (Condition.Similar.chain (.leaf hfirst) ?_)
  rw [List.forall₂_map_left_iff, List.forall₂_map_right_iff]
  exact hothers.imp fun _ _ h => .leaf h

theorem inStep_condition : InStep S (Condition.Similar S) condition condition := by
  refine InStep.bind (InStep.chain inStep_conjunction) ?_
  rintro ⟨first, others⟩ ⟨first', others'⟩ ⟨hfirst, hothers⟩
  exact InStep.pure (hfirst.chain hothers)

theorem inStep_direction : InStep S Eq direction direction := by
  refine InStep.branch (InStep.pure rfl) ?_
  exact InStep.bind (InStep.accept _) fun _ _ _ => InStep.pure rfl

theorem inStep_sortKey : InStep S (SortKey.Similar S) sortKey sortKey := by
  refine inStep_name.bind fun _ _ hcolumn => ?_
  exact inStep_direction.bind fun _ _ hdirection => InStep.pure ⟨hcolumn, hdirection⟩

/-- Similar groups: related names and similar conditions on the groups. -/
def SimilarGroups (S : String → String → Prop)
    (grouped grouped' : List String × Option Condition) : Prop :=
  List.Forall₂ S grouped.1 grouped'.1 ∧
    Option.Rel (Condition.Similar S) grouped.2 grouped'.2

theorem inStep_groups : InStep S (SimilarGroups S) groups groups := by
  refine InStep.bind (InStep.expect _) fun _ _ _ => ?_
  refine inStep_names.bind fun _ _ hcolumns => ?_
  exact inStep_condition.announced.bind fun _ _ hhaving => InStep.pure ⟨hcolumns, hhaving⟩

theorem inStep_ordering : InStep S (List.Forall₂ (SortKey.Similar S)) ordering ordering := by
  refine InStep.bind (InStep.expect _) fun _ _ _ => ?_
  refine InStep.bind (InStep.chain inStep_sortKey) ?_
  rintro ⟨first, others⟩ ⟨first', others'⟩ ⟨hfirst, hothers⟩
  exact InStep.pure (.cons hfirst hothers)

theorem inStep_terminator (required : Bool) :
    InStep S Eq (terminator required) (terminator required) := by
  cases required with
  | false => exact InStep.accept _
  | true => exact InStep.bind (InStep.expect _) fun _ _ _ => InStep.pure rfl

theorem inStep_clauses (required : Bool) :
    InStep S (Query.Similar S) (clauses required) (clauses required) := by
  refine InStep.bind (InStep.expect _) fun _ _ _ => ?_
  refine inStep_projection.bind fun _ _ hcolumns => ?_
  refine InStep.bind (InStep.expect _) fun _ _ _ => ?_
  refine inStep_names.bind fun _ _ htables => ?_
  refine inStep_condition.announced.bind fun _ _ hfilter => ?_
  refine inStep_groups.announced.bind fun grouped grouped' hgrouped => ?_
  refine inStep_ordering.announced.bind fun ordering ordering' hordering => ?_
  refine (inStep_terminator required).bind fun _ _ hterminated => ?_
  have hgroups : SimilarGroups S (grouped.getD ([], none)) (grouped'.getD ([], none)) := by
    cases hgrouped with
    | some h => exact h
    | none => exact ⟨.nil, .none⟩
  have hkeys : List.Forall₂ (SortKey.Similar S) (ordering.getD []) (ordering'.getD []) := by
    cases hordering with
    | some h => exact h
    | none => exact .nil
  exact InStep.pure ⟨hcolumns, htables, hfilter, hgroups.1, hgroups.2, hkeys, hterminated⟩

/-- Statements are read in step: at similar tokens, up to the first that differs in kind, they end
in the same way. -/
theorem inStep_statement (required : Bool) :
    InStep S (Query.Similar S) (statement required) (statement required) := by
  refine (inStep_clauses required).bind fun _ _ hquery => ?_
  exact InStep.bind InStep.finish fun _ _ _ => InStep.pure hquery

end SelectLang

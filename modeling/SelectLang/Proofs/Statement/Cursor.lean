import SelectLang.Proofs.Statement.Repeated
import SelectLang.Statement.Cursor

/-!
# Cursors and readers

A reader of statements is given the tokens before the first end marker and sees no others; a cursor
moves over all of them and stops at the end marker of itself.  They come to the same: what a
production does to the tokens ahead of a cursor, the reading of the same name does at the cursor
(`Follows`, from `follows_name` to `follows_statement`).  So a cursor and a reader that are asked for
statements equally often give the same answers and stand at the same token (`after_agrees`).
-/

namespace SelectLang

open StatementReader (standing after kind_ne_eof_of_mem_takeWhile)

namespace TokenCursor

variable {cursor : TokenCursor} {token : Token} {rest read left : List Token}

/-! ## What is ahead of a cursor -/

/-- The tokens from the cursor on, up to the first end marker. -/
def ahead (cursor : TokenCursor) : List Token :=
  (cursor.tokens.drop cursor.position).takeWhile (!·.isEof)

/-- The cursor some tokens further on. -/
def passed (cursor : TokenCursor) (n : Nat) : TokenCursor :=
  { cursor with position := cursor.position + n }

@[simp] theorem passed_passed (cursor : TokenCursor) (m n : Nat) :
    (cursor.passed m).passed n = cursor.passed (m + n) := by
  rw [passed, passed, passed, Nat.add_assoc]

theorem kind_ne_eof_of_mem_ahead (h : token ∈ cursor.ahead) : token.kind ≠ .eof :=
  kind_ne_eof_of_mem_takeWhile h

theorem current_of_ahead_eq_cons (h : cursor.ahead = token :: rest) : cursor.current = token := by
  obtain ⟨behind, hbehind⟩ :=
    List.takeWhile_prefix (l := cursor.tokens.drop cursor.position) (!·.isEof)
  have hhead : (cursor.tokens.drop cursor.position).head? = some token := by
    rw [← hbehind, show List.takeWhile _ _ = token :: rest from h]
    rfl
  rw [List.head?_drop] at hhead
  rw [current, hhead, Option.getD_some]

/-- Where nothing is ahead there is an end marker, or no token at all. -/
theorem kind_current_of_ahead_eq_nil (h : cursor.ahead = []) : cursor.current.kind = .eof := by
  rw [current, ← List.head?_drop]
  cases hdrop : cursor.tokens.drop cursor.position with
  | nil => rfl
  | cons token rest =>
    rw [ahead, hdrop, List.takeWhile_cons] at h
    split at h
    · cases h
    · rename_i hmarker
      simpa [Token.isEof] using hmarker

theorem advance_of_ahead_eq_cons (h : cursor.ahead = token :: rest) :
    cursor.advance = cursor.passed 1 := by
  have hkind : token.kind ≠ .eof := kind_ne_eof_of_mem_ahead (by rw [h]; exact List.mem_cons_self)
  have hmarker : cursor.atEnd = false := by
    rw [atEnd, current_of_ahead_eq_cons h]
    simpa [Token.isEof] using hkind
  rw [advance, hmarker]
  rfl

theorem ahead_passed (h : cursor.ahead = read ++ left) :
    (cursor.passed read.length).ahead = left := by
  induction read generalizing cursor with
  | nil => exact h
  | cons token read ih =>
    have hnext : (cursor.passed 1).ahead = read ++ left := by
      rw [ahead, passed, ← List.drop_drop, List.drop_one]
      rw [ahead] at h
      cases hdrop : cursor.tokens.drop cursor.position with
      | nil => simp [hdrop] at h
      | cons first others =>
        rw [hdrop, List.takeWhile_cons] at h
        split at h
        · exact (List.cons.inj h).2
        · cases h
    rw [List.length_cons, Nat.add_comm, ← passed_passed]
    exact ih hnext

end TokenCursor

open TokenCursor

/-! ## Readings that follow productions -/

variable {α β γ δ : Type} {f : α → β} {g : γ → δ}

/-- The outcome of a production, at the cursor where it stops. -/
def TokenCursor.outcome (cursor : TokenCursor) :
    Except Expected α → EStateM.Result SyntaxError TokenCursor α
  | .ok a => .ok a cursor
  | .error expected => .error (.ofToken cursor.current expected) cursor

/-- The reading does at the cursor what the production does to the tokens ahead of it: it moves over
the tokens that are read, and its result is made from that of the production. -/
def FollowsAt (cursor : TokenCursor) (f : α → β) (m : Reading β) (p : Production α) : Prop :=
  ∀ ⦃read left : List Token⦄ ⦃r : Except Expected α⦄,
    cursor.ahead = read ++ left → p.run (read ++ left) = (r, left) →
      m.run cursor = (cursor.passed read.length).outcome (r.map f)

/-- The reading follows the production wherever the cursor stands. -/
def Follows (f : α → β) (m : Reading β) (p : Production α) : Prop :=
  ∀ cursor, FollowsAt cursor f m p

namespace FollowsAt

variable {cursor : TokenCursor} {m : Reading β} {p : Production α}

/-- It is enough to tell what the production reads. -/
theorem of_run
    (h : ∃ (read left : List Token) (r : Except Expected α), cursor.ahead = read ++ left ∧
      p.run (read ++ left) = (r, left) ∧
        m.run cursor = (cursor.passed read.length).outcome (r.map f)) : FollowsAt cursor f m p := by
  obtain ⟨read', left', r', hahead', hrun', hmoved⟩ := h
  intro read left r hahead hrun
  rw [← hahead', hahead, hrun] at hrun'
  obtain ⟨rfl, rfl⟩ := Prod.mk.inj hrun'
  obtain rfl := List.append_cancel_right (hahead.symm.trans hahead')
  exact hmoved

protected theorem pure (cursor : TokenCursor) (f : α → β) (a : α) :
    FollowsAt cursor f (pure (f a)) (pure a) :=
  of_run ⟨[], cursor.ahead, .ok a, rfl, rfl, rfl⟩

/-- After the first part the cursor stands before what the second one reads. -/
theorem bind {k : β → Reading δ} {l : α → Production γ} (hm : FollowsAt cursor f m p)
    (hk : ∀ a first mid, cursor.ahead = first ++ mid → p.run (first ++ mid) = (.ok a, mid) →
      FollowsAt (cursor.passed first.length) g (k (f a)) (l a)) :
    FollowsAt cursor g (m >>= k) (p >>= l) := by
  intro read left r hahead hrun
  rw [Production.run_bind] at hrun
  split at hrun
  · rename_i a mid hfirst
    have hleft := (l a).suffix_run mid
    rw [hrun] at hleft
    obtain ⟨first, second, rfl, rfl⟩ := exists_append_of_run hfirst hleft
    rw [List.append_assoc] at hahead hfirst
    have hrest := hk a first _ hahead hfirst (ahead_passed hahead) hrun
    rw [EStateM.run_bind, hm hahead hfirst, List.length_append, ← passed_passed]
    exact hrest
  · rename_i e mid hfirst
    obtain ⟨rfl, rfl⟩ := Prod.mk.inj hrun
    rw [EStateM.run_bind, hm hahead hfirst]
    rfl

/-- Where the result of a production is put in another form, the reading may have that form at
once. -/
theorem bind_pure {m : Reading δ} {h : α → δ} (hm : FollowsAt cursor h m p)
    {l : α → Production γ} {k : α → γ} (hl : ∀ a, l a = pure (k a)) (hk : ∀ a, g (k a) = h a) :
    FollowsAt cursor g m (p >>= l) := by
  intro read left r hahead hrun
  rw [Production.run_bind] at hrun
  split at hrun
  · rename_i a mid hfirst
    rw [hl, Production.run_pure] at hrun
    obtain ⟨rfl, rfl⟩ := Prod.mk.inj hrun
    rw [hm hahead hfirst]
    exact congrArg (fun b => TokenCursor.outcome _ (.ok b)) (hk a).symm
  · rename_i e mid hfirst
    obtain ⟨rfl, rfl⟩ := Prod.mk.inj hrun
    exact hm hahead hfirst

end FollowsAt

namespace Follows

protected theorem pure (f : α → β) (a : α) : Follows f (pure (f a)) (pure a) :=
  fun cursor => .pure cursor f a

theorem bind {m : Reading β} {p : Production α} {k : β → Reading δ} {l : α → Production γ}
    (hm : Follows f m p) (hk : ∀ a, Follows g (k (f a)) (l a)) :
    Follows g (m >>= k) (p >>= l) :=
  fun cursor => (hm cursor).bind fun a _ _ _ _ => hk a _

theorem bind_pure {m : Reading δ} {p : Production α} {h : α → δ} (hm : Follows h m p)
    {l : α → Production γ} {k : α → γ} (hl : ∀ a, l a = pure (k a)) (hk : ∀ a, g (k a) = h a) :
    Follows g m (p >>= l) :=
  fun cursor => (hm cursor).bind_pure hl hk

/-! ### Single tokens -/

/-- An end marker never shows what is looked for, so it is never passed. -/
theorem take (expected : Expected) {view : Token → Option α}
    (hview : ∀ token : Token, token.kind = .eof → view token = none) :
    Follows id (Reading.take expected view) (Production.take expected view) := by
  intro cursor
  apply FollowsAt.of_run
  have hrun := Reading.run_take expected view cursor
  cases hahead : cursor.ahead with
  | nil =>
    refine ⟨[], [], .error expected, rfl, rfl, ?_⟩
    rw [hrun, hview _ (kind_current_of_ahead_eq_nil hahead)]
    rfl
  | cons token rest =>
    rw [current_of_ahead_eq_cons hahead, advance_of_ahead_eq_cons hahead] at hrun
    cases htoken : view token with
    | none =>
      refine ⟨[], token :: rest, .error expected, rfl, ?_, ?_⟩
      · simp [Production.take, htoken]
      · rw [hrun, htoken, ← current_of_ahead_eq_cons hahead]
        rfl
    | some a =>
      refine ⟨[token], rest, .ok a, rfl, ?_, ?_⟩
      · simp [Production.take, htoken]
      · rw [hrun, htoken]
        rfl

theorem eat {kind : Kind} (hkind : kind ≠ .eof) :
    Follows id (Reading.eat kind) (Production.accept kind) := by
  intro cursor
  apply FollowsAt.of_run
  have hrun := Reading.run_eat kind cursor
  cases hahead : cursor.ahead with
  | nil =>
    refine ⟨[], [], .ok false, rfl, rfl, ?_⟩
    rw [hrun, kind_current_of_ahead_eq_nil hahead, if_neg hkind.symm]
    rfl
  | cons token rest =>
    rw [current_of_ahead_eq_cons hahead, advance_of_ahead_eq_cons hahead] at hrun
    by_cases htoken : token.kind = kind
    · exact ⟨[token], rest, .ok true, rfl, if_pos htoken, hrun.trans (if_pos htoken)⟩
    · exact ⟨[], token :: rest, .ok false, rfl, if_neg htoken, hrun.trans (if_neg htoken)⟩

theorem expect {kind : Kind} (hkind : kind ≠ .eof) :
    Follows id (Reading.expect kind) (Production.expect kind) := by
  intro cursor
  apply FollowsAt.of_run
  have hrun := Reading.run_expect kind cursor
  cases hahead : cursor.ahead with
  | nil =>
    refine ⟨[], [], .error (.kind kind), rfl, rfl, ?_⟩
    rw [hrun, kind_current_of_ahead_eq_nil hahead, if_neg hkind.symm]
    rfl
  | cons token rest =>
    rw [current_of_ahead_eq_cons hahead, advance_of_ahead_eq_cons hahead] at hrun
    by_cases htoken : token.kind = kind
    · refine ⟨[token], rest, .ok (), rfl, ?_, hrun.trans (if_pos htoken)⟩
      simp [Production.expect, Production.take, htoken]
    · refine ⟨[], token :: rest, .error (.kind kind), rfl, ?_, hrun.trans ?_⟩
      · simp [Production.expect, Production.take, htoken]
      · rw [if_neg htoken, ← current_of_ahead_eq_cons hahead]
        rfl

theorem finish : Follows id Reading.finish Production.finish := by
  intro cursor
  apply FollowsAt.of_run
  have hrun := Reading.run_finish cursor
  cases hahead : cursor.ahead with
  | nil =>
    refine ⟨[], [], .ok (), rfl, rfl, ?_⟩
    rw [hrun, if_pos (by rw [atEnd, Token.isEof, kind_current_of_ahead_eq_nil hahead]; rfl)]
    rfl
  | cons token rest =>
    refine ⟨[], token :: rest, .error .endOfStatement, rfl, rfl, ?_⟩
    have hmarker : ¬ cursor.atEnd = true := by
      have hmem : cursor.current ∈ cursor.ahead := by
        rw [current_of_ahead_eq_cons hahead, hahead]
        exact List.mem_cons_self
      simpa [atEnd, Token.isEof] using kind_ne_eof_of_mem_ahead hmem
    rw [hrun, if_neg hmarker]
    rfl

/-! ### Options and loops -/

theorem branch {kind : Kind} (hkind : kind ≠ .eof) {m m' : Reading β} {p p' : Production α}
    (hm : Follows f m p) (hm' : Follows f m' p') :
    Follows f (Reading.eat kind >>= fun found => if found = true then m else m')
      (Production.accept kind >>= fun found => if found = true then p else p') := by
  refine (eat hkind).bind ?_
  rintro (_ | _)
  · exact hm'
  · exact hm

/-- Each round reads a token at least, so there are enough rounds if there is one for every token
ahead. -/
theorem extendUpTo {separator : Kind} (hkind : separator ≠ .eof) {m : Reading β}
    {part : Production α} (hm : Follows f m part) (add : γ → β → γ) {rounds : Nat} {acc : γ}
    {cursor : TokenCursor} (hrounds : cursor.ahead.length ≤ rounds) :
    FollowsAt cursor (fun others => (others.map f).foldl add acc)
      (Reading.extendUpTo separator m add rounds acc) (Production.others separator part) := by
  induction rounds generalizing acc cursor with
  | zero =>
    have hahead : cursor.ahead = [] := List.eq_nil_of_length_eq_zero (Nat.le_zero.1 hrounds)
    exact .of_run ⟨[], [], .ok [], hahead, runOthers_of_stops part trivial, rfl⟩
  | succ rounds ih =>
    rw [others_eq]
    refine (eat hkind cursor).bind fun found read left hahead hread => ?_
    have hleft := ahead_passed hahead
    cases found with
    | false => exact .pure _ (fun others : List α => (others.map f).foldl add acc) []
    | true =>
      -- the separator is read, so for what is left one round less is enough
      have hlength : left.length ≤ rounds := by
        rcases run_accept_cases separator (read ++ left) with
          ⟨leaf, rest, hcons, haccept⟩ | ⟨-, haccept⟩
        · obtain ⟨-, rfl⟩ := Prod.mk.inj (haccept.symm.trans hread)
          rw [hahead, hcons] at hrounds
          exact Nat.le_of_succ_le_succ hrounds
        · cases (Prod.mk.inj (haccept.symm.trans hread)).1
      refine FollowsAt.bind (hm _) fun a first mid hpart _ => ?_
      have hmid := ahead_passed hpart
      refine (ih ?_).bind_pure (fun _ => rfl) (fun _ => rfl)
      rw [hmid]
      rw [hleft] at hpart
      rw [hpart, List.length_append] at hlength
      omega

/-- Parts that are added to what there is, as they are read. -/
theorem extend {separator : Kind} (hkind : separator ≠ .eof) {m : Reading β}
    {part : Production α} (hm : Follows f m part) (add : γ → β → γ) (acc : γ) :
    Follows (fun others => (others.map f).foldl add acc) (Reading.extend separator m add acc)
      (Production.others separator part) := by
  intro cursor
  have hrounds : cursor.ahead.length ≤ cursor.tokens.length := by
    have hdrop := (cursor.tokens.drop_suffix cursor.position).length_le
    exact ((List.takeWhile_prefix _).length_le).trans hdrop
  exact extendUpTo hkind hm add hrounds

/-- A first part and those added to it. -/
theorem chain {separator : Kind} (hkind : separator ≠ .eof) {m : Reading β}
    {part : Production α} (hm : Follows f m part) (add : γ → β → γ) (start : β → γ) :
    Follows (fun pair => (pair.2.map f).foldl add (start (f pair.1)))
      (m >>= fun first => Reading.extend separator m add (start first))
      (Production.chain separator part) := by
  refine hm.bind fun a => ?_
  exact (extend hkind hm add (start (f a))).bind_pure (fun _ => rfl) (fun _ => rfl)

end Follows

/-! ## The grammar -/

theorem foldl_concat_eq_append (xs ys : List α) :
    ys.foldl (fun zs y => zs ++ [y]) xs = xs ++ ys := by
  rw [List.foldl_append_eq_append, ← List.flatMap_def, List.flatMap_singleton']

theorem follows_name : Follows id Reading.name Production.name :=
  Follows.take _ fun token htoken => by rw [htoken]; rfl

theorem follows_names : Follows id Reading.names Production.names := by
  refine (Follows.chain (by decide) follows_name _ _).bind_pure (fun _ => rfl) ?_
  rintro ⟨first, others⟩
  rw [List.map_id]
  exact (foldl_concat_eq_append [first] others).symm

theorem follows_projection : Follows id Reading.projection Production.projection := by
  refine Follows.branch (by decide) (Follows.pure id _) ?_
  exact follows_names.bind fun names => Follows.pure id _

theorem follows_comparator : Follows id Reading.comparator Production.comparator :=
  Follows.take _ fun token htoken => by rw [htoken]; rfl

theorem follows_operand : Follows id Reading.operand Production.operand :=
  Follows.take _ fun token htoken => by rw [Production.operandOf?, htoken]

theorem follows_comparison : Follows id Reading.comparison Production.comparison := by
  refine follows_name.bind fun column => ?_
  refine follows_comparator.bind fun op => ?_
  exact follows_operand.bind fun operand => Follows.pure id _

/-- Comparisons that are joined while they are read make the same condition as those collected
first. -/
theorem follows_conjunction : Follows id Reading.conjunction Production.conjunction := by
  refine (Follows.chain (by decide) follows_comparison _ _).bind_pure (fun _ => rfl) ?_
  rintro ⟨first, others⟩
  simp [Condition.chain, List.foldl_map]

theorem follows_condition : Follows id Reading.condition Production.condition := by
  refine (Follows.chain (by decide) follows_conjunction _ _).bind_pure (fun _ => rfl) ?_
  rintro ⟨first, others⟩
  simp [Condition.chain]

theorem follows_restriction (keyword : Keyword) :
    Follows id (Reading.restriction keyword)
      (Production.announced (.keyword keyword) Production.condition) := by
  refine Follows.branch (by simp) ?_ (Follows.pure id _)
  exact follows_condition.bind fun condition => Follows.pure id _

theorem follows_grouping :
    Follows (·.getD ([], none)) Reading.grouping
      (Production.announced (.keyword .group) Production.groups) := by
  refine Follows.branch (by decide) ?_ (Follows.pure (·.getD ([], none)) none)
  refine Follows.bind_pure ?groups (fun _ => rfl) (fun _ => rfl)
  refine (Follows.expect (by decide)).bind fun _ => ?_
  refine follows_names.bind fun columns => ?_
  exact (follows_restriction .having).bind fun having => Follows.pure id _

theorem follows_direction : Follows id Reading.direction Production.direction := by
  refine Follows.branch (by decide) (Follows.pure id _) ?_
  exact (Follows.eat (by decide)).bind fun _ => Follows.pure id _

theorem follows_sortKey : Follows id Reading.sortKey Production.sortKey := by
  refine follows_name.bind fun column => ?_
  exact follows_direction.bind fun direction => Follows.pure id _

theorem follows_ordering :
    Follows (·.getD []) Reading.ordering
      (Production.announced (.keyword .order) Production.ordering) := by
  refine Follows.branch (by decide) ?_ (Follows.pure (·.getD []) none)
  refine Follows.bind_pure ?ordering (fun _ => rfl) (fun _ => rfl)
  refine (Follows.expect (by decide)).bind fun _ => ?_
  refine (Follows.chain (by decide) follows_sortKey _ _).bind_pure (fun _ => rfl) ?_
  rintro ⟨first, others⟩
  rw [List.map_id]
  exact (foldl_concat_eq_append [first] others).symm

theorem follows_terminator (required : Bool) :
    Follows id (Reading.terminator required) (Production.terminator required) := by
  cases required with
  | false => exact Follows.eat (by decide)
  | true => exact (Follows.expect (by decide)).bind fun _ => Follows.pure id _

theorem follows_clauses (required : Bool) :
    Follows id (Reading.clauses required) (Production.clauses required) := by
  refine (Follows.expect (by decide)).bind fun _ => ?_
  refine follows_projection.bind fun columns => ?_
  refine (Follows.expect (by decide)).bind fun _ => ?_
  refine follows_names.bind fun tables => ?_
  refine (follows_restriction .where).bind fun filter => ?_
  refine follows_grouping.bind fun grouped => ?_
  refine follows_ordering.bind fun ordering => ?_
  exact (follows_terminator required).bind fun terminated => Follows.pure id _

/-- A statement is read alike at a cursor and from the tokens ahead of it. -/
theorem follows_statement (required : Bool) :
    Follows id (Reading.statement required) (Production.statement required) := by
  refine (follows_clauses required).bind fun query => ?_
  exact Follows.finish.bind fun _ => Follows.pure id _

/-! ## Cursors and readers that are asked equally often -/

namespace TokenCursor

variable {dialect : Dialect} {ts read left : List Token}

/-- The cursor after some statements were asked for, from the first token on. -/
def after (dialect : Dialect) (ts : List Token) : Nat → TokenCursor
  | 0 => { tokens := ts }
  | n + 1 => ((after dialect ts n).read dialect.terminatorRequired).2

theorem ahead_of_takeWhile (hcut : ts.takeWhile (!·.isEof) = read ++ left) :
    (TokenCursor.mk ts read.length).ahead = left := by
  have hstart : (TokenCursor.mk ts 0).ahead = read ++ left := hcut
  have hpassed := ahead_passed hstart
  rwa [passed, Nat.zero_add] at hpassed

/-- A statement is read alike at a cursor and by a reader that stands there. -/
theorem read_eq_read_standing (dialect : Dialect) (hcut : ts.takeWhile (!·.isEof) = read ++ left) :
    (TokenCursor.mk ts read.length).read dialect.terminatorRequired =
      ((standing dialect ts read left).read.1,
        TokenCursor.mk ts (standing dialect ts read left).read.2.cursor) := by
  obtain ⟨r, more, left', rfl, hrun, hread⟩ :=
    StatementReader.exists_read_standing dialect hcut
  have hmoved := follows_statement dialect.terminatorRequired _ (ahead_of_takeWhile hcut) hrun
  have hcursor : (TokenCursor.mk ts read.length).passed more.length =
      TokenCursor.mk ts (read ++ more).length := by
    rw [passed, List.length_append]
  rw [hcursor] at hmoved
  rw [TokenCursor.read, hmoved, hread]
  cases r <;> rfl

/-- Cursors and readers move alike. -/
theorem after_eq (dialect : Dialect) (ts : List Token) (n : Nat) :
    after dialect ts n = TokenCursor.mk ts (StatementReader.after dialect ts n).cursor := by
  induction n with
  | zero => rfl
  | succ n ih =>
    obtain ⟨read, left, hcut, hreader⟩ := StatementReader.after_eq_standing dialect ts n
    rw [after, ih, StatementReader.after_succ, hreader]
    exact congrArg Prod.snd (read_eq_read_standing dialect hcut)

/-- A cursor tells the same as a reader does. -/
structure Agrees (cursor : TokenCursor) (reader : StatementReader) : Prop where
  position : cursor.position = reader.cursor
  current : cursor.current = reader.current
  atEnd : cursor.atEnd = reader.atEnd
  result : (cursor.read reader.terminatorRequired).1 = reader.read.1

/-- However often they are asked for statements, a cursor among all tokens and a reader of those
before the first end marker agree. -/
theorem after_agrees (dialect : Dialect) (ts : List Token) (n : Nat) :
    (after dialect ts n).Agrees (StatementReader.after dialect ts n) := by
  obtain ⟨read, left, hcut, hreader⟩ := StatementReader.after_eq_standing dialect ts n
  rw [after_eq, hreader]
  refine ⟨rfl, (StatementReader.current_standing hcut).symm, ?_, ?_⟩
  · rw [Bool.eq_iff_iff, StatementReader.atEnd, List.isEmpty_iff]
    refine Iff.trans ?_ (StatementReader.kind_tokenAt_eq_eof_iff hcut)
    exact beq_iff_eq
  · exact congrArg Prod.fst (read_eq_read_standing dialect hcut)

/-- The query that a list of tokens states is the one read at a cursor before the first of them. -/
theorem read_eq_ofTokens (dialect : Dialect) (ts : List Token) :
    ((TokenCursor.mk ts 0).read dialect.terminatorRequired).1 = Query.ofTokens dialect ts :=
  (after_agrees dialect ts 0).result

/-- A semicolon behind an end marker is in view but never read, however often a statement is asked
for. -/
example :
    let ts : List Token :=
      [⟨.keyword .select, "SELECT", ⟨0, 6⟩⟩, ⟨.star, "*", ⟨7, 8⟩⟩,
        ⟨.keyword .from, "FROM", ⟨9, 13⟩⟩, ⟨.identifier, "t", ⟨14, 15⟩⟩, .eof 15,
        ⟨.semicolon, ";", ⟨15, 16⟩⟩]
    ((TokenCursor.mk ts 0).read false).1 = .ok { columns := .all, tables := ["t"] } ∧
      (after .lenient ts 1).position = 4 ∧ (after .lenient ts 2).position = 4 := by
  exact ⟨rfl, rfl, rfl⟩

end TokenCursor

end SelectLang

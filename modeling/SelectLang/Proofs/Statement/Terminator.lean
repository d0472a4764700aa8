import SelectLang.Proofs.Grammar.Tokens
import SelectLang.Proofs.Statement.Outcome

/-!
# Requiring the semicolon

Whether the semicolon is required matters at the end of a statement only.  Up to there both dialects
read the same tokens to the same results (`ClausesEnd.bind`), and where the semicolon is missing the
one goes on and the other stops (`clausesEnd_terminator`).  So what reading comes to where it is
required follows from what it comes to where it is not, and the reader stops at the same token
(`terminatorLaw_ofTokens`).
-/

namespace SelectLang

open Phrase (tokens)
open Production

/-! ## Two dialects in step -/

/-- How the clauses end where the semicolon is optional, and how they end where it is required. -/
inductive ClausesEnd :
    Except Expected Query × List Token → Except Expected Query × List Token → Prop
  /-- Neither gets to the end of the statement. -/
  | early (e : Expected) (left : List Token) : ClausesEnd (.error e, left) (.error e, left)
  /-- There is a semicolon. -/
  | terminated {q : Query} (h : q.terminated = true) (left : List Token) :
      ClausesEnd (.ok q, left) (.ok q, left)
  /-- There is none. -/
  | unterminated {q : Query} (h : q.terminated = false) (left : List Token) :
      ClausesEnd (.ok q, left) (.error (.kind .semicolon), left)

/-- What comes before the end is read in the same way. -/
theorem ClausesEnd.bind {α : Type} (p : Production α) {f g : α → Production Query}
    (h : ∀ a left, ClausesEnd ((f a).run left) ((g a).run left)) (ts : List Token) :
    ClausesEnd ((p >>= f).run ts) ((p >>= g).run ts) := by
  rw [run_bind, run_bind]
  rcases p.run ts with ⟨e | a, left⟩
  · exact .early e left
  · exact h a left

theorem clausesEnd_terminator {query : Bool → Query} (h : ∀ found, (query found).terminated = found)
    (ts : List Token) :
    ClausesEnd ((terminator false >>= fun found => pure (query found)).run ts)
      ((terminator true >>= fun found => pure (query found)).run ts) := by
  have htrue : terminator true = expect .semicolon >>= fun _ => pure true := rfl
  have hfalse : terminator false = accept .semicolon := rfl
  rw [htrue, hfalse]
  cases ts with
  | nil => exact .unterminated (h false) []
  | cons token rest =>
    by_cases hkind : token.kind = .semicolon
    · simp only [run_bind, expect, take, run_accept_cons, if_pos hkind]
      exact .terminated (h true) rest
    · simp only [run_bind, expect, take, run_accept_cons, if_neg hkind]
      exact .unterminated (h false) (token :: rest)

/-- The clauses are read alike up to the end of the statement. -/
theorem clausesEnd_run (ts : List Token) :
    ClausesEnd ((clauses false).run ts) ((clauses true).run ts) := by
  unfold clauses
  refine ClausesEnd.bind _ (fun _ => ?select) ts
  refine ClausesEnd.bind _ fun columns => ?projection
  refine ClausesEnd.bind _ fun _ => ?fromWord
  refine ClausesEnd.bind _ fun tables => ?tables
  refine ClausesEnd.bind _ fun filter => ?filter
  refine ClausesEnd.bind _ fun grouped => ?groups
  refine ClausesEnd.bind _ fun ordering => ?ordering
  exact clausesEnd_terminator fun _ => rfl

/-! ## The last token -/

/-- Semicolons stand at the end of a statement only. -/
theorem every_ne_semicolon {required : Bool} (written : Derivation required)
    (h : written.terminator.val = none) :
    Every (fun token => token.kind ≠ .semicolon) written := by
  have hkeyword : ∀ {k : Keyword} (leaf : Leaf (.keyword k)), leaf.val.kind ≠ .semicolon := by
    intro k leaf
    simp [leaf.property]
  rw [every_derivation, h]
  refine ⟨hkeyword _, (inner_projection _).imp (Token.IsInner.kind_ne rfl), hkeyword _,
    (inner_names _).imp (Token.IsInner.kind_ne rfl), ?filter, ?groups, ?ordering, every_none⟩
  case filter =>
    exact every_announced hkeyword (fun t => (inner_condition t).imp (Token.IsInner.kind_ne rfl)) _
  case groups =>
    exact every_announced hkeyword (fun t => (inner_groups t).imp (Token.IsInner.kind_ne rfl)) _
  case ordering =>
    exact every_announced hkeyword (fun t => (inner_ordering t).imp (Token.IsInner.kind_ne rfl)) _

/-- The last token of a statement tells whether it is terminated. -/
theorem exists_getLast?_tokens {required : Bool} (written : Derivation required) :
    ∃ last, (tokens written).getLast? = some last ∧
      (last.kind = .semicolon ↔ written.query.terminated = true) := by
  have hne : tokens written ≠ [] := List.cons_ne_nil written.select.val _
  cases hterminator : written.terminator.val with
  | none =>
    refine ⟨(tokens written).getLast hne, List.getLast?_eq_some_getLast hne, ?_⟩
    have hlast := every_ne_semicolon written hterminator _ (List.getLast_mem hne)
    simp [hlast, Derivation.query, hterminator]
  | some leaf =>
    refine ⟨leaf.val, ?_, ?_⟩
    · have htokens : tokens written.terminator = [leaf.val] := by
        change tokens written.terminator.val = _
        rw [hterminator]
        rfl
      change (tokens written.select ++ (tokens written.projection ++ (tokens written.fromWord ++
        (tokens written.tables ++ (tokens written.filter ++ (tokens written.groups ++
          (tokens written.ordering ++ tokens written.terminator))))))).getLast? = _
      rw [htokens]
      simp only [← List.append_assoc]
      exact List.getLast?_concat
    · simp [leaf.property, Derivation.query, hterminator]

/-! ## Statements -/

/-- How a statement ends where the semicolon is optional, and how it ends where it is required, when
the first tokens are read and the others are left. -/
inductive StatementEnds (read left : List Token) :
    Except Expected Query → Except Expected Query → Prop
  /-- Neither dialect gets to the end of the statement. -/
  | early {e : Expected} (h : e ≠ .endOfStatement) : StatementEnds read left (.error e) (.error e)
  /-- All tokens are read, a semicolon among them. -/
  | terminated {q : Query} (h : q.terminated = true) : StatementEnds read left (.ok q) (.ok q)
  /-- All tokens are read, and there was no semicolon. -/
  | unterminated {q : Query} (h : q.terminated = false) (hleft : left = []) :
      StatementEnds read left (.ok q) (.error (.kind .semicolon))
  /-- Another token follows the statement. -/
  | trailing {previous : Token} (h : read.getLast? = some previous) (hleft : left ≠ []) :
      StatementEnds read left (.error .endOfStatement)
        (.error (if previous.kind = .semicolon then .endOfStatement else .kind .semicolon))

/-- Where another token follows, the semicolon is missing unless the statement is terminated. -/
theorem statementEnds_of_trailing (written : Derivation false) {left : List Token}
    (hleft : left ≠ []) :
    StatementEnds (tokens written) left (.error .endOfStatement)
      (.error (if written.query.terminated = true then .endOfStatement else .kind .semicolon)) := by
  obtain ⟨last, hlast, hsemicolon⟩ := exists_getLast?_tokens written
  rw [← if_congr hsemicolon rfl rfl]
  exact .trailing hlast hleft

/-- Both dialects stop at the same token. -/
theorem statementEnds_run {read left : List Token} {r : Except Expected Query}
    (hrun : (statement false).run (read ++ left) = (r, left)) :
    ∃ r', (statement true).run (read ++ left) = (r', left) ∧ StatementEnds read left r r' := by
  have hends := clausesEnd_run (read ++ left)
  rw [run_statement] at hrun ⊢
  generalize hfirst : (clauses false).run (read ++ left) = first at hends hrun
  generalize (clauses true).run (read ++ left) = second at hends
  -- if a token follows, those that are read are a statement
  have htrailing : ∀ {q}, first = (.ok q, left) → left ≠ [] →
      StatementEnds read left (.error .endOfStatement)
        (.error (if q.terminated = true then .endOfStatement else .kind .semicolon)) := by
    intro q hq hleft
    obtain ⟨written, rfl, hread⟩ := (reads_clauses false).sound (hfirst.trans hq)
    obtain rfl := List.append_cancel_right hread
    exact statementEnds_of_trailing written hleft
  cases hends with
  | early e left' =>
    obtain ⟨rfl, rfl⟩ := Prod.mk.inj hrun
    obtain ⟨-, -, hne, -⟩ := (reads_clauses false).viable hfirst
    refine ⟨_, rfl, .early ?_⟩
    rintro rfl
    exact hne rfl
  | @terminated q hq left' =>
    cases left' with
    | nil =>
      obtain ⟨rfl, rfl⟩ := Prod.mk.inj hrun
      exact ⟨_, rfl, .terminated hq⟩
    | cons token rest =>
      obtain ⟨rfl, rfl⟩ := Prod.mk.inj hrun
      have hends := htrailing rfl (List.cons_ne_nil token rest)
      rw [if_pos hq] at hends
      exact ⟨_, rfl, hends⟩
  | @unterminated q hq left' =>
    cases left' with
    | nil =>
      obtain ⟨rfl, rfl⟩ := Prod.mk.inj hrun
      exact ⟨_, rfl, .unterminated hq rfl⟩
    | cons token rest =>
      obtain ⟨rfl, rfl⟩ := Prod.mk.inj hrun
      have hends := htrailing rfl (List.cons_ne_nil token rest)
      rw [if_neg (by simp [hq])] at hends
      exact ⟨_, rfl, hends⟩

/-- What a statement comes to where the semicolon is required, from what it comes to where it is
not, from the token read last and from the token at which the reader stops. -/
structure TerminatorLaw (ts : List Token) (i : Nat)
    (lenient strict : Except SyntaxError Query) : Prop where
  /-- The statements with a semicolon are read, and to the same queries. -/
  ok_iff : ∀ q, strict = .ok q ↔ lenient = .ok q ∧ q.terminated = true
  /-- Where there is none, it is missing at the end. -/
  unterminated : ∀ q, lenient = .ok q → q.terminated = false →
    (tokenAt ts i).kind = .eof ∧ strict = .error (.ofToken (tokenAt ts i) (.kind .semicolon))
  /-- Errors inside the statement are the same. -/
  unexpected : ∀ e, lenient = .error e → e.expected ≠ .endOfStatement → strict = .error e
  /-- Where more follows the statement, either it follows the semicolon or the semicolon is missing
  there. -/
  trailing : ∀ e, lenient = .error e → e.expected = .endOfStatement →
    ∃ previous token, 0 < i ∧ ts[i - 1]? = some previous ∧ ts[i]? = some token ∧
      e = .ofToken token .endOfStatement ∧
      strict = .error
        (if previous.kind = .semicolon then e else { e with expected := .kind .semicolon })

open StatementReader

variable {ts read left : List Token}

theorem getElem?_of_cut (hcut : ts.takeWhile (!·.isEof) = read ++ left) {i : Nat}
    (hi : i < (read ++ left).length) : ts[i]? = (read ++ left)[i]? := by
  obtain ⟨after, hafter⟩ := List.takeWhile_prefix (l := ts) (!·.isEof)
  rw [hcut] at hafter
  rw [← hafter, List.getElem?_append_left hi]

/-- The law holds of the errors that tell of the token at which the reader stops. -/
theorem terminatorLaw_of_statementEnds {r r' : Except Expected Query}
    (hcut : ts.takeWhile (!·.isEof) = read ++ left) (h : StatementEnds read left r r') :
    TerminatorLaw ts read.length (r.mapError (.ofToken (tokenAt ts read.length)))
      (r'.mapError (.ofToken (tokenAt ts read.length))) := by
  cases h with
  | @early e h =>
    change TerminatorLaw ts read.length (.error _) (.error _)
    refine { ok_iff := ?_, unterminated := ?_, unexpected := ?_, trailing := ?_ }
    · simp
    · intro q hq
      cases hq
    · intro e' he _
      exact he
    · intro e' he hend
      rw [← Except.error.inj he] at hend
      exact absurd hend h
  | @terminated q h =>
    change TerminatorLaw ts read.length (.ok q) (.ok q)
    refine { ok_iff := ?_, unterminated := ?_, unexpected := ?_, trailing := ?_ }
    · intro q'
      refine ⟨fun hq => ⟨hq, ?_⟩, And.left⟩
      rw [← Except.ok.inj hq, h]
    · intro q' hq hfalse
      rw [← Except.ok.inj hq, h] at hfalse
      cases hfalse
    · intro e he
      cases he
    · intro e he
      cases he
  | @unterminated q h hleft =>
    change TerminatorLaw ts read.length (.ok q) (.error _)
    refine { ok_iff := ?_, unterminated := ?_, unexpected := ?_, trailing := ?_ }
    · intro q'
      refine ⟨nofun, ?_⟩
      rintro ⟨hq, htrue⟩
      rw [← Except.ok.inj hq, h] at htrue
      cases htrue
    · intro q' _ _
      exact ⟨(kind_tokenAt_eq_eof_iff hcut).2 hleft, rfl⟩
    · intro e he
      cases he
    · intro e he
      cases he
  | @trailing previous h hleft =>
    change TerminatorLaw ts read.length (.error _) (.error _)
    obtain ⟨token, rest, rfl⟩ := List.exists_cons_of_ne_nil hleft
    rw [tokenAt_of_takeWhile hcut]
    refine { ok_iff := ?_, unterminated := ?_, unexpected := ?_, trailing := ?_ }
    · simp
    · intro q hq
      cases hq
    · intro e he hne
      rw [← Except.error.inj he] at hne
      exact absurd rfl hne
    · intro e he _
      obtain rfl := Except.error.inj he
      have hpos : 0 < read.length := List.length_pos_of_mem (List.mem_of_getLast? h)
      refine ⟨previous, token, hpos, ?_, ?_, rfl, ?_⟩
      · rw [getElem?_of_cut hcut (by simp; omega), List.getElem?_append_left (by omega),
          ← List.getLast?_eq_getElem?, h]
      · rw [getElem?_of_cut hcut (by simp), List.getElem?_append_right (Nat.le_refl _),
          Nat.sub_self]
        rfl
      · split <;> rfl

/-- A list of tokens is read to the same token whether or not the semicolon is required, and what it
comes to where it is required follows from what it comes to where it is not. -/
theorem terminatorLaw_ofTokens (quotes : QuoteStyle) (ts : List Token) :
    (ofTokens ⟨true, quotes⟩ ts).read.2.cursor = (ofTokens ⟨false, quotes⟩ ts).read.2.cursor ∧
      TerminatorLaw ts (ofTokens ⟨false, quotes⟩ ts).read.2.cursor
        (Query.ofTokens ⟨false, quotes⟩ ts) (Query.ofTokens ⟨true, quotes⟩ ts) := by
  obtain ⟨r, read, left, hcut, hrun, hcursor, hresult⟩ := exists_read ⟨false, quotes⟩ ts
  obtain ⟨r', read', left', hcut', hrun', hcursor', hresult'⟩ := exists_read ⟨true, quotes⟩ ts
  obtain ⟨r'', hstrict, hends⟩ := statementEnds_run hrun
  rw [← hcut, hcut'] at hstrict
  obtain ⟨rfl, rfl⟩ := Prod.mk.inj (hrun'.symm.trans hstrict)
  obtain rfl := List.append_cancel_right (hcut'.symm.trans hcut)
  rw [hcursor, hcursor', hresult, hresult']
  exact ⟨rfl, terminatorLaw_of_statementEnds hcut hends⟩

end SelectLang

import SelectLang.Proofs.Statement.Outcome

/-!
# Asking a reader again

A reader that has read a statement, or has failed to, stands somewhere in its list of tokens and can
be asked for another statement.  All that it knows is where it stands (`after_eq_standing`): it goes
on as a new reader of the tokens that are left would, and its cursor never moves back nor passes the
end marker.  Where it cannot move it never will, because SELECT is missing there
(`read_eq_of_unmoved`); that is so at the end of the tokens, and so after every success.  The law of
the cursor puts these together (`cursorLaw`).
-/

namespace SelectLang

open Production

/-! ## Productions that read nothing -/

/-- Of two parts that read nothing together, each reads nothing. -/
theorem run_bind_of_unmoved {α β : Type} {p : Production α} {f : α → Production β}
    {ts : List Token} {r : Except Expected β} (h : (p >>= f).run ts = (r, ts)) :
    (∃ e, p.run ts = (.error e, ts) ∧ r = .error e) ∨
      ∃ a, p.run ts = (.ok a, ts) ∧ (f a).run ts = (r, ts) := by
  rw [run_bind] at h
  have hfirst := p.suffix_run ts
  rcases hrun : p.run ts with ⟨e | a, mid⟩ <;> rw [hrun] at h hfirst <;> dsimp only at h hfirst
  · obtain ⟨rfl, rfl⟩ := Prod.mk.inj h
    exact Or.inl ⟨e, rfl, rfl⟩
  · have hsecond := (f a).suffix_run mid
    rw [h] at hsecond
    obtain rfl : mid = ts := hfirst.eq_of_length_le hsecond.length_le
    exact Or.inr ⟨a, rfl, h⟩

theorem run_expect_of_unmoved {kind : Kind} {ts : List Token} {r : Except Expected Unit}
    (h : (expect kind).run ts = (r, ts)) : r = .error (.kind kind) := by
  cases ts with
  | nil => exact (Prod.mk.inj h).1.symm
  | cons token rest =>
    by_cases hkind : token.kind = kind
    · have hread : (expect kind).run (token :: rest) = (.ok (), rest) := by
        simp [expect, take, hkind]
      rw [hread] at h
      have hlength := congrArg List.length (Prod.mk.inj h).2
      simp at hlength
    · have hstop : (expect kind).run (token :: rest) = (.error (.kind kind), token :: rest) := by
        simp [expect, take, hkind]
      rw [hstop] at h
      exact (Prod.mk.inj h).1.symm

/-- A statement of which nothing is read lacks the keyword that it begins with. -/
theorem run_statement_of_unmoved {required : Bool} {ts : List Token} {r : Except Expected Query}
    (h : (statement required).run ts = (r, ts)) : r = .error (.kind (.keyword .select)) := by
  have hselect : ∀ {r' : Except Expected Query}, (clauses required).run ts = (r', ts) →
      r' = .error (.kind (.keyword .select)) := by
    intro r' hclauses
    unfold clauses at hclauses
    rcases run_bind_of_unmoved hclauses with ⟨e, hexpect, rfl⟩ | ⟨a, hexpect, -⟩
    · obtain rfl := Except.error.inj (run_expect_of_unmoved hexpect)
      rfl
    · cases run_expect_of_unmoved hexpect
  unfold statement at h
  rcases run_bind_of_unmoved h with ⟨e, hclauses, rfl⟩ | ⟨q, hclauses, -⟩
  · obtain rfl := Except.error.inj (hselect hclauses)
    rfl
  · cases hselect hclauses

namespace StatementReader

variable {dialect : Dialect} {ts read left : List Token}

/-! ## Where a reader can stand -/

/-- The reader of the tokens that stands between those that it has read and those that are left. -/
def standing (dialect : Dialect) (ts read left : List Token) : StatementReader :=
  { ofTokens dialect ts with ahead := left, cursor := read.length }

/-- The reader of the tokens after some statements were asked for. -/
def after (dialect : Dialect) (ts : List Token) : Nat → StatementReader
  | 0 => ofTokens dialect ts
  | n + 1 => (after dialect ts n).read.2

theorem after_succ (dialect : Dialect) (ts : List Token) (n : Nat) :
    after dialect ts (n + 1) = (after dialect ts n).read.2 := rfl

/-- The first end marker stands behind the tokens that can be read. -/
theorem findIdx_isEof (hcut : ts.takeWhile (!·.isEof) = read ++ left) :
    ts.findIdx Token.isEof = read.length + left.length := by
  rw [← List.length_append, ← hcut]
  clear hcut
  induction ts with
  | nil => rfl
  | cons token ts ih => cases h : token.isEof <;> simp [List.findIdx_cons, h, ih]

theorem current_standing (hcut : ts.takeWhile (!·.isEof) = read ++ left) :
    (standing dialect ts read left).current = tokenAt ts read.length := by
  cases left with
  | nil =>
    rw [List.append_nil] at hcut
    rw [← hcut, tokenAt_takeWhile]
    rfl
  | cons token rest => exact (tokenAt_of_takeWhile hcut).symm

/-- What a reader does, told from what its production does. -/
theorem read_of_run {reader : StatementReader} {r : Except Expected Query} {left : List Token}
    (h : (statement reader.terminatorRequired).run reader.ahead = (r, left)) :
    reader.read.2 = { reader with
      ahead := left
      cursor := reader.cursor + (reader.ahead.length - left.length) } ∧
    reader.read.1 = r.mapError (.ofToken reader.read.2.current) := by
  have hstopped : reader.read.2 = { reader with
      ahead := left
      cursor := reader.cursor + (reader.ahead.length - left.length) } := by
    simp only [StatementReader.read, advance, h]
  refine ⟨hstopped, ?_⟩
  rw [hstopped]
  simp only [StatementReader.read, advance, h]

/-- A reader goes on from where it stands. -/
theorem exists_read_standing (dialect : Dialect)
    (hcut : ts.takeWhile (!·.isEof) = read ++ left) :
    ∃ (r : Except Expected Query) (more left' : List Token), left = more ++ left' ∧
      (statement dialect.terminatorRequired).run left = (r, left') ∧
      (standing dialect ts read left).read =
        (r.mapError (.ofToken (tokenAt ts (read ++ more).length)),
          standing dialect ts (read ++ more) left') := by
  rcases hrun : (statement dialect.terminatorRequired).run left with ⟨r, left'⟩
  obtain ⟨more, hmore⟩ : left' <:+ left := by
    have hsuffix := (statement dialect.terminatorRequired).suffix_run left
    rwa [hrun] at hsuffix
  refine ⟨r, more, left', hmore.symm, rfl, ?_⟩
  obtain ⟨hstopped, hresult⟩ := @read_of_run (standing dialect ts read left) r left' hrun
  have hcursor : read.length + (left.length - left'.length) = (read ++ more).length := by
    rw [← hmore, List.length_append, List.length_append]
    omega
  have hstanding : (standing dialect ts read left).read.2 =
      standing dialect ts (read ++ more) left' := by
    rw [hstopped, standing, standing, ← hcursor]
  rw [hstanding, current_standing (by rw [hcut, List.append_assoc, hmore])] at hresult
  exact Prod.ext hresult hstanding

/-- However often a reader is asked, it stands somewhere among its tokens. -/
theorem after_eq_standing (dialect : Dialect) (ts : List Token) (n : Nat) :
    ∃ read left, ts.takeWhile (!·.isEof) = read ++ left ∧
      after dialect ts n = standing dialect ts read left := by
  induction n with
  | zero => exact ⟨[], ts.takeWhile (!·.isEof), rfl, rfl⟩
  | succ n ih =>
    obtain ⟨read, left, hcut, hreader⟩ := ih
    obtain ⟨r, more, left', hleft, -, hread⟩ := exists_read_standing dialect hcut
    refine ⟨read ++ more, left', by rw [hcut, hleft, List.append_assoc], ?_⟩
    rw [after_succ, hreader, hread]

theorem current_after (dialect : Dialect) (ts : List Token) (n : Nat) :
    (after dialect ts n).current = tokenAt ts (after dialect ts n).cursor := by
  obtain ⟨read, left, hcut, hreader⟩ := after_eq_standing dialect ts n
  rw [hreader]
  exact current_standing hcut

/-! ## Readers that do not move -/

/-- Where a reader does not move, SELECT is missing. -/
theorem read_eq_of_unmoved (hcut : ts.takeWhile (!·.isEof) = read ++ left)
    (h : (standing dialect ts read left).read.2.cursor = read.length) :
    (standing dialect ts read left).read =
      (.error (.ofToken (tokenAt ts read.length) (.kind (.keyword .select))),
        standing dialect ts read left) := by
  obtain ⟨r, more, left', rfl, hrun, hread⟩ := exists_read_standing dialect hcut
  rw [hread] at h
  have hlength : (read ++ more).length = read.length := h
  obtain rfl : more = [] := by
    rw [List.length_append] at hlength
    exact List.eq_nil_of_length_eq_zero (by omega)
  rw [List.nil_append] at hrun
  rw [hread, run_statement_of_unmoved hrun, List.append_nil, List.nil_append]
  rfl

/-- Once it does not move, a reader never will. -/
theorem after_of_unmoved {n : Nat}
    (h : (after dialect ts (n + 1)).cursor = (after dialect ts n).cursor) {m : Nat} (hm : n ≤ m) :
    after dialect ts m = after dialect ts n ∧
      (after dialect ts m).read.1 = .error
        (.ofToken (tokenAt ts (after dialect ts n).cursor) (.kind (.keyword .select))) := by
  obtain ⟨read, left, hcut, hreader⟩ := after_eq_standing dialect ts n
  rw [after_succ, hreader] at h
  have hread := read_eq_of_unmoved hcut h
  rw [hreader]
  induction m, hm using Nat.le_induction with
  | base =>
    rw [hreader, hread]
    exact ⟨rfl, rfl⟩
  | succ m _ ih =>
    have hstays : after dialect ts (m + 1) = standing dialect ts read left := by
      rw [after_succ, ih.1, hread]
    rw [hstays, hread]
    exact ⟨rfl, rfl⟩

/-- A statement takes up all tokens, and so leaves a reader where it cannot move. -/
theorem read_eq_standing_of_ok {q : Query} (hcut : ts.takeWhile (!·.isEof) = read ++ left)
    (h : (standing dialect ts read left).read.1 = .ok q) :
    (standing dialect ts read left).read.2 = standing dialect ts (read ++ left) [] := by
  obtain ⟨r, more, left', rfl, hrun, hread⟩ := exists_read_standing dialect hcut
  rw [hread] at h ⊢
  cases r with
  | error e => cases h
  | ok q' =>
    obtain ⟨rfl, -⟩ := run_statement_eq_ok_iff.1 hrun
    rw [List.append_nil]

/-- At the end of the tokens a reader cannot move. -/
theorem cursor_read_of_end (hcut : ts.takeWhile (!·.isEof) = read ++ []) :
    (standing dialect ts read []).read.2.cursor = read.length := by
  obtain ⟨r, more, left', hleft, -, hread⟩ := exists_read_standing dialect hcut
  obtain ⟨rfl, -⟩ := List.append_eq_nil_iff.1 hleft.symm
  rw [hread, List.append_nil]
  rfl

/-- After a success the reader stays at the end marker. -/
theorem after_of_ok {n : Nat} {q : Query} (h : (after dialect ts n).read.1 = .ok q) :
    (after dialect ts (n + 1)).cursor = ts.findIdx Token.isEof ∧
      (after dialect ts (n + 2)).cursor = (after dialect ts (n + 1)).cursor := by
  obtain ⟨read, left, hcut, hreader⟩ := after_eq_standing dialect ts n
  rw [hreader] at h
  have hend : after dialect ts (n + 1) = standing dialect ts (read ++ left) [] := by
    rw [after_succ, hreader, read_eq_standing_of_ok hcut h]
  have hall : ts.takeWhile (!·.isEof) = read ++ left ++ [] := by rw [hcut, List.append_nil]
  rw [after_succ dialect ts (n + 1), hend, cursor_read_of_end hall]
  refine ⟨?_, rfl⟩
  rw [findIdx_isEof hcut]
  exact List.length_append

theorem kind_tokenAt_findIdx (ts : List Token) :
    (tokenAt ts (ts.findIdx Token.isEof)).kind = .eof := by
  have hcut : ts.takeWhile (!·.isEof) = ts.takeWhile (!·.isEof) ++ [] := by rw [List.append_nil]
  rw [findIdx_isEof hcut]
  exact (kind_tokenAt_eq_eof_iff hcut).2 rfl

/-! ## New readers -/

/-- A new reader of the tokens from an index on differs from one that stands there by its cursor
only. -/
theorem ofTokens_drop (dialect : Dialect) (hcut : ts.takeWhile (!·.isEof) = read ++ left)
    (hlt : read.length < ts.length) :
    ofTokens dialect (ts.drop read.length) =
      { standing dialect ts read left with cursor := 0 } := by
  obtain ⟨rest, rfl⟩ : read <+: ts := by
    rw [← take_length_read hcut]
    exact List.take_prefix _ _
  have hread : ∀ token ∈ read, token.isEof = false := by
    intro token htoken
    have hmem : token ∈ (read ++ rest).takeWhile (!·.isEof) := by simp [hcut, htoken]
    simpa using List.mem_takeWhile_imp hmem
  have hrest : rest ≠ [] := by
    rintro rfl
    simp at hlt
  have hleft : rest.takeWhile (!·.isEof) = left := by
    rw [List.takeWhile_append_of_pos (by simpa using hread)] at hcut
    exact List.append_cancel_left hcut
  have hfind : (read ++ rest).find? Token.isEof = rest.find? Token.isEof := by
    rw [List.find?_append, List.find?_eq_none.2 (by simpa using hread), Option.none_or]
  have hlast : (read ++ rest).getLast? = rest.getLast? := by
    rw [List.getLast?_append_of_ne_nil _ hrest]
  have hending : endingOf (read ++ rest) = endingOf rest := by
    rw [endingOf, endingOf, hfind, hlast]
  rw [List.drop_left, ofTokens, hleft, ← hending]
  rfl

/-- Reading does not depend on where the cursor stands, but moves it. -/
theorem read_eq_of_cursor (reader : StatementReader) :
    reader.read.1 = ({ reader with cursor := 0 } : StatementReader).read.1 ∧
      reader.read.2.cursor =
        reader.cursor + ({ reader with cursor := 0 } : StatementReader).read.2.cursor := by
  refine ⟨rfl, ?_⟩
  show reader.cursor + _ = reader.cursor + (0 + _)
  rw [Nat.zero_add]

end StatementReader

open StatementReader

/-! ## The law of the cursor -/

/-- What holds of a reader however often it has been asked for a statement. -/
structure CursorLaw (dialect : Dialect) (ts : List Token) : Prop where
  start : (after dialect ts 0).cursor = 0
  /-- The cursor does not move back. -/
  monotone : ∀ n, (after dialect ts n).cursor ≤ (after dialect ts (n + 1)).cursor
  /-- It does not pass the first end marker, or the end of the tokens if there is none. -/
  bounded : ∀ n, (after dialect ts n).cursor ≤ ts.findIdx Token.isEof
  atEnd_iff : ∀ n, (after dialect ts n).atEnd = true ↔
    (after dialect ts n).cursor = ts.findIdx Token.isEof
  /-- The next token is the one at the cursor. -/
  current : ∀ n, (after dialect ts n).current = tokenAt ts (after dialect ts n).cursor
  /-- A statement takes up all tokens. -/
  success : ∀ n q, (after dialect ts n).read.1 = .ok q →
    (after dialect ts (n + 1)).cursor = ts.findIdx Token.isEof
  /-- What comes next is what a new reader of the tokens from the cursor on would do. -/
  resumed : ∀ n, (after dialect ts n).cursor < ts.length →
    (after dialect ts n).read.1 = Query.ofTokens dialect (ts.drop (after dialect ts n).cursor) ∧
      (after dialect ts (n + 1)).cursor = (after dialect ts n).cursor +
        (ofTokens dialect (ts.drop (after dialect ts n).cursor)).read.2.cursor
  /-- Where the cursor does not move SELECT is missing, and it is missing from then on. -/
  stuck : ∀ n, (after dialect ts (n + 1)).cursor = (after dialect ts n).cursor → ∀ m ≥ n,
    (after dialect ts m).cursor = (after dialect ts n).cursor ∧
      (after dialect ts m).read.1 = .error
        (.ofToken (after dialect ts n).current (.kind (.keyword .select)))
  /-- After a success SELECT is missing at the end marker. -/
  exhausted : ∀ n q, (after dialect ts n).read.1 = .ok q → ∀ m > n,
    (after dialect ts m).read.1 = .error
        (.ofToken (after dialect ts m).current (.kind (.keyword .select))) ∧
      (after dialect ts m).current.kind = .eof

/-- The law of the cursor holds of every list of tokens. -/
theorem cursorLaw (dialect : Dialect) (ts : List Token) : CursorLaw dialect ts where
  start := rfl
  monotone n := by
    obtain ⟨read, left, hcut, hreader⟩ := after_eq_standing dialect ts n
    obtain ⟨r, more, left', -, -, hread⟩ := exists_read_standing dialect hcut
    rw [after_succ, hreader, hread]
    show read.length ≤ (read ++ more).length
    simp
  bounded n := by
    obtain ⟨read, left, hcut, hreader⟩ := after_eq_standing dialect ts n
    rw [hreader, findIdx_isEof hcut]
    exact Nat.le_add_right _ _
  atEnd_iff n := by
    obtain ⟨read, left, hcut, hreader⟩ := after_eq_standing dialect ts n
    rw [hreader, findIdx_isEof hcut]
    show left.isEmpty = true ↔ read.length = read.length + left.length
    simp
  current := current_after dialect ts
  success n q h := (after_of_ok h).1
  resumed n hlt := by
    obtain ⟨read, left, hcut, hreader⟩ := after_eq_standing dialect ts n
    rw [hreader] at hlt
    obtain ⟨hresult, hcursor⟩ := read_eq_of_cursor (standing dialect ts read left)
    rw [← ofTokens_drop dialect hcut hlt] at hresult hcursor
    rw [after_succ, hreader]
    exact ⟨hresult, hcursor⟩
  stuck n h m hm := by
    obtain ⟨hstays, hresult⟩ := after_of_unmoved h hm
    rw [current_after]
    exact ⟨congrArg cursor hstays, hresult⟩
  exhausted n q h m hm := by
    obtain ⟨hend, hunmoved⟩ := after_of_ok h
    obtain ⟨hstays, hresult⟩ := after_of_unmoved hunmoved (Nat.succ_le_of_lt hm)
    have hcurrent : (after dialect ts m).current = tokenAt ts (ts.findIdx Token.isEof) := by
      rw [hstays, current_after, hend]
    rw [hcurrent, hresult, hend]
    exact ⟨rfl, kind_tokenAt_findIdx ts⟩

end SelectLang

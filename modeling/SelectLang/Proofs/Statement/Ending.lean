import SelectLang.Proofs.Statement.Repeated

/-!
# The end of the tokens

Tokens may come with an end marker behind them or without one.  Without one they are read as if it
stood at the end of the last token, and of what comes behind the first one nothing is seen.  So two
readers of the same tokens differ in their end markers at most; they read alike, however often they
are asked (`read_withEnding`, `after_withEnding`), and an error tells them apart only where it shows
the end marker itself (`endingLaw_of_kinds`).
-/

namespace SelectLang

open Production

/-- The same query, or the same error; but where the one error shows its end marker, the other shows
its own. -/
inductive SameUpToEnding (ending ending' : Token) :
    Except SyntaxError Query → Except SyntaxError Query → Prop
  | ok (q : Query) : SameUpToEnding ending ending' (.ok q) (.ok q)
  | token {e : SyntaxError} (h : e.found ≠ .eof) :
      SameUpToEnding ending ending' (.error e) (.error e)
  | ending (expected : Expected) :
      SameUpToEnding ending ending' (.error (.ofToken ending expected))
        (.error (.ofToken ending' expected))

/-- The end marker behind the last token. -/
def impliedEnding (ts : List Token) : Token := .eof ((ts.getLast?.map (·.span.stop)).getD 0)

namespace StatementReader

variable {dialect : Dialect} {ts : List Token}

/-! ## Readers of the same tokens -/

/-- The reader with another end marker. -/
def withEnding (reader : StatementReader) (ending : Token) : StatementReader :=
  { reader with ending }

/-- The end marker that comes first is the one, and nothing behind it is seen. -/
theorem ofTokens_append_ending (dialect : Dialect) (hts : ∀ token ∈ ts, token.kind ≠ .eof)
    {ending : Token} (hending : ending.kind = .eof) (more : List Token) :
    ofTokens dialect (ts ++ ending :: more) = (ofTokens dialect ts).withEnding ending := by
  have hahead : ts.takeWhile (!·.isEof) = ts := by
    rw [List.takeWhile_eq_self_iff]
    intro token htoken
    simpa [Token.isEof] using hts token htoken
  have hfind : (ts ++ ending :: more).find? Token.isEof = some ending := by
    rw [List.find?_append, List.find?_eq_none.2 (by simpa [Token.isEof] using hts)]
    simp [Token.isEof, hending]
  simp [ofTokens, withEnding, endingOf, takeWhile_append_ending hts hending, hahead, hfind]

theorem endingOf_of_kinds (hts : ∀ token ∈ ts, token.kind ≠ .eof) :
    endingOf ts = impliedEnding ts := by
  rw [endingOf, List.find?_eq_none.2 (by simpa [Token.isEof] using hts)]
  rfl

/-! ## Reading alike -/

/-- No end marker is left to be read as a token. -/
def Unmarked (reader : StatementReader) : Prop := ∀ token ∈ reader.ahead, token.kind ≠ .eof

theorem unmarked_ofTokens (dialect : Dialect) (ts : List Token) :
    (ofTokens dialect ts).Unmarked := fun _ htoken => kind_ne_eof_of_mem_takeWhile htoken

theorem Unmarked.read {reader : StatementReader} (h : reader.Unmarked) :
    reader.read.2.Unmarked := by
  intro token htoken
  have hsuffix := (statement reader.terminatorRequired).suffix_run reader.ahead
  exact h token (hsuffix.mem htoken)

/-- A reader with another end marker reads the same tokens. -/
theorem read_withEnding {reader : StatementReader} (h : reader.Unmarked) (ending : Token) :
    (reader.withEnding ending).read.2 = reader.read.2.withEnding ending ∧
      SameUpToEnding reader.ending ending reader.read.1 (reader.withEnding ending).read.1 := by
  rcases hrun : (statement reader.terminatorRequired).run reader.ahead with ⟨r, left⟩
  obtain ⟨hleft, hresult⟩ := read_of_run hrun
  obtain ⟨hleft', hresult'⟩ := @read_of_run (reader.withEnding ending) r left hrun
  refine ⟨by rw [hleft', hleft]; rfl, ?_⟩
  rw [hresult, hresult', hleft, hleft']
  cases r with
  | ok q => exact .ok q
  | error expected =>
    cases hahead : left with
    | nil => exact .ending expected
    | cons token rest =>
      have hkind : token.kind ≠ .eof := by
        apply h.read token
        rw [hleft, hahead]
        exact List.mem_cons_self
      exact .token hkind

/-- However often the two are asked, they stay alike. -/
theorem after_withEnding {us : List Token} {ending : Token}
    (h : ofTokens dialect us = (ofTokens dialect ts).withEnding ending) (n : Nat) :
    after dialect us n = (after dialect ts n).withEnding ending ∧
      (after dialect ts n).Unmarked ∧ (after dialect ts n).ending = endingOf ts := by
  induction n with
  | zero => exact ⟨h, unmarked_ofTokens dialect ts, rfl⟩
  | succ n ih =>
    obtain ⟨hafter, hunmarked, hending⟩ := ih
    rw [after_succ, after_succ, hafter, (read_withEnding hunmarked ending).1]
    exact ⟨rfl, hunmarked.read, hending⟩

end StatementReader

open StatementReader

/-! ## The law of the end marker -/

/-- How tokens without an end marker are read, and how they are read with one behind them. -/
structure EndingLaw (dialect : Dialect) (ts : List Token) : Prop where
  /-- Nothing behind the end marker is seen. -/
  behind : ∀ ending : Token, ending.kind = .eof → ∀ more,
    Query.ofTokens dialect (ts ++ [ending] ++ more) = Query.ofTokens dialect (ts ++ [ending])
  /-- An end marker that is missing stands at the end of the last token. -/
  implied : Query.ofTokens dialect ts = Query.ofTokens dialect (ts ++ [impliedEnding ts])
  /-- With any end marker the reader stops at the same token. -/
  cursor : ∀ ending : Token, ending.kind = .eof →
    (ofTokens dialect ts).read.2.cursor = (ofTokens dialect (ts ++ [ending])).read.2.cursor
  /-- It reads the same, but for an error that shows the end marker. -/
  result : ∀ ending : Token, ending.kind = .eof →
    SameUpToEnding (impliedEnding ts) ending (Query.ofTokens dialect ts)
      (Query.ofTokens dialect (ts ++ [ending]))
  /-- So it does each time it is asked again. -/
  again : ∀ ending : Token, ending.kind = .eof → ∀ n,
    (after dialect ts n).cursor = (after dialect (ts ++ [ending]) n).cursor ∧
      SameUpToEnding (impliedEnding ts) ending (after dialect ts n).read.1
        (after dialect (ts ++ [ending]) n).read.1

/-- Tokens are read alike without an end marker and with any. -/
theorem endingLaw_of_kinds (dialect : Dialect) {ts : List Token}
    (h : ∀ token ∈ ts, token.kind ≠ .eof) : EndingLaw dialect ts := by
  have hmarked : ∀ ending : Token, ending.kind = .eof → ∀ more,
      ofTokens dialect (ts ++ ending :: more) = (ofTokens dialect ts).withEnding ending :=
    fun ending hending more => ofTokens_append_ending dialect h hending more
  have hagain : ∀ ending : Token, ending.kind = .eof → ∀ n,
      (after dialect ts n).cursor = (after dialect (ts ++ [ending]) n).cursor ∧
        SameUpToEnding (impliedEnding ts) ending (after dialect ts n).read.1
          (after dialect (ts ++ [ending]) n).read.1 := by
    intro ending hending n
    obtain ⟨hafter, hunmarked, hfirst⟩ := after_withEnding (hmarked ending hending []) n
    have hsame := (read_withEnding hunmarked ending).2
    rw [hfirst, endingOf_of_kinds h] at hsame
    rw [hafter]
    exact ⟨rfl, hsame⟩
  constructor
  case behind =>
    intro ending hending more
    rw [List.append_assoc, List.singleton_append, Query.ofTokens, Query.ofTokens,
      hmarked ending hending more, hmarked ending hending []]
  case implied =>
    have hsame : (ofTokens dialect ts).withEnding (impliedEnding ts) = ofTokens dialect ts := by
      rw [← endingOf_of_kinds h]
      rfl
    rw [Query.ofTokens, Query.ofTokens, hmarked _ rfl [], hsame]
  case cursor => exact fun ending hending => (hagain ending hending 1).1
  case result => exact fun ending hending => (hagain ending hending 0).2
  case again => exact hagain

/-- A table is missing at the end, wherever the end marker says that it is. -/
theorem endingLaw_select_all_from :
    let ts : List Token :=
      [⟨.keyword .select, "SELECT", ⟨0, 6⟩⟩, ⟨.star, "*", ⟨7, 8⟩⟩,
        ⟨.keyword .from, "FROM", ⟨9, 13⟩⟩]
    let ending : Token := ⟨.eof, "end", ⟨20, 3⟩⟩
    (∀ token ∈ ts, token.kind ≠ .eof) ∧ EndingLaw .lenient ts ∧
      Query.ofTokens .lenient ts = .error ⟨.kind .identifier, .eof, "", 13⟩ ∧
      Query.ofTokens .lenient (ts ++ [ending] ++ [⟨.identifier, "t", ⟨14, 15⟩⟩]) =
        .error ⟨.kind .identifier, .eof, "end", 20⟩ := by
  intro ts ending
  have hts : ∀ token ∈ ts, token.kind ≠ .eof := by decide
  have hlaw : EndingLaw .lenient ts := endingLaw_of_kinds .lenient hts
  refine ⟨hts, hlaw, rfl, ?_⟩
  rw [hlaw.behind ending rfl]
  rfl

end SelectLang

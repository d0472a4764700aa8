import SelectLang.Proofs.CommandLine.Check
import SelectLang.Proofs.Statement.Repeated
import SelectLang.Proofs.Statement.Trimmed

/-!
# Agreement of the commands

The three commands reach a statement by different ways: a check parses it as it is, a tree is drawn
of it without the blanks at its ends, and a listing only cuts it into tokens.  With the same options
they agree on it nevertheless (`commandsAgree_of_parse_check`).  A check and a tree end with the same
code and fail at the same stage; the tokens of the statement cannot be listed exactly if the check
fails at them, and then the same is printed; and what is listed for a statement that passes are the
tokens that the parse takes up.
-/

namespace SelectLang

/-! ## Stages -/

/-- The text begins with the words. -/
def BeginsWith (text words : String) : Prop := words.toList <+: text.toList

instance (text words : String) : Decidable (BeginsWith text words) :=
  inferInstanceAs (Decidable (words.toList <+: text.toList))

/-- What the line of a failure can begin with. -/
def stages : List String := ["Lexical error: ", "Syntax error: "]

/-- What the line of an error begins with. -/
def QueryError.stage : QueryError → String
  | .lexical _ => "Lexical error: "
  | .syntactic _ => "Syntax error: "

theorem stage_mem_stages (e : QueryError) : e.stage ∈ stages := by
  cases e <;> simp [QueryError.stage, stages]

theorem exists_output_failure (e : QueryError) :
    ∃ rest, (Outcome.failure (verdict (.error e))).output = e.stage ++ rest := by
  cases e with
  | lexical cause => exact ⟨cause.message ++ "\n", String.append_assoc⟩
  | syntactic cause => exact ⟨cause.message ++ "\n", String.append_assoc⟩

theorem toList_ne_nil_of_mem_stages : ∀ words ∈ stages, words.toList ≠ [] := by decide

/-- The stages differ in their first letters. -/
theorem eq_of_head?_eq : ∀ words ∈ stages, ∀ words' ∈ stages,
    words.toList.head? = words'.toList.head? → words = words' := by decide

/-- The line of an error begins with its stage, and with no other. -/
theorem beginsWith_failure_iff {e : QueryError} {words : String} (hwords : words ∈ stages) :
    BeginsWith (Outcome.failure (verdict (.error e))).output words ↔ words = e.stage := by
  have hstage := stage_mem_stages e
  obtain ⟨rest, houtput⟩ := exists_output_failure e
  rw [houtput, BeginsWith, String.toList_append]
  constructor
  · rintro ⟨more, hmore⟩
    have hhead := congrArg List.head? hmore
    rw [List.head?_append_of_ne_nil _ (toList_ne_nil_of_mem_stages words hwords),
      List.head?_append_of_ne_nil _ (toList_ne_nil_of_mem_stages _ hstage)] at hhead
    exact eq_of_head?_eq words hwords e.stage hstage hhead
  · rintro rfl
    exact List.prefix_append _ _

/-- A statement fails at the same stage with and without the blanks at its ends. -/
theorem QueryError.Trimmed.stage_eq {lead size stop : Nat} {e e' : QueryError}
    (h : e.Trimmed lead size stop e') : e'.stage = e.stage := by
  cases h <;> rfl

/-! ## Outcomes for one statement -/

variable {dialect : Dialect} {query : String}

theorem ofCheck_of_ok {q : Query} (h : Query.parse dialect query = .ok q) :
    Outcome.ofCheck dialect [query] = ⟨"Valid SQL query!\n", 0⟩ := by
  simp [Outcome.ofCheck, h, verdict, Except.isOk, Except.toBool]

theorem ofCheck_of_error {e : QueryError} (h : Query.parse dialect query = .error e) :
    Outcome.ofCheck dialect [query] = .failure (verdict (.error e)) := by
  simp [Outcome.ofCheck, h, Outcome.failure, Except.isOk, Except.toBool]

/-- How the tree of a statement agrees with a check of it. -/
structure TreeAgrees (check tree : Outcome) : Prop where
  code : tree.code = check.code
  /-- Where they fail, they fail at the same stage. -/
  stage : tree.code ≠ 0 → ∀ words ∈ stages,
    (BeginsWith tree.output words ↔ BeginsWith check.output words)
  /-- They fail at one of the stages. -/
  failed : tree.code ≠ 0 → ∃ words ∈ stages, BeginsWith tree.output words

/-- There is a tree of just the statements that pass a check. -/
theorem treeAgrees_ofTree (dialect : Dialect) (json : Bool) (query : String) :
    TreeAgrees (.ofCheck dialect [query]) (.ofTree dialect json query) := by
  rcases exists_parse_trim dialect query with
    ⟨q, htrimmed, hparse⟩ | ⟨e, e', htrimmed, hparse, herror⟩
  · have hcode : (Outcome.ofTree dialect json query).code = 0 := by
      rw [Outcome.ofTree, htrimmed]
    rw [ofCheck_of_ok hparse]
    exact ⟨hcode, fun hfails => absurd hcode hfails, fun hfails => absurd hcode hfails⟩
  · have htree : Outcome.ofTree dialect json query = .failure (verdict (.error e')) := by
      rw [Outcome.ofTree, htrimmed]
    rw [ofCheck_of_error hparse, htree]
    refine ⟨rfl, fun _ words hwords => ?_, fun _ => ⟨e'.stage, stage_mem_stages e', ?_⟩⟩
    · rw [beginsWith_failure_iff hwords, beginsWith_failure_iff hwords, herror.stage_eq]
    · rw [beginsWith_failure_iff (stage_mem_stages e')]

/-- The tokens of a statement, which its parse takes up to the last before the end marker. -/
structure TakesUp (dialect : Dialect) (query : String) (ts : List Token) : Prop where
  tokens : tokenize dialect query = .ok ts
  parsed : ∃ q, Query.parse dialect query = .ok q ∧ Query.ofTokens dialect ts = .ok q
  cursor : (StatementReader.ofTokens dialect ts).read.2.cursor + 1 = ts.length

theorem takesUp_of_ok {ts : List Token} {q : Query} (htokens : tokenize dialect query = .ok ts)
    (hparse : Query.parse dialect query = .ok q) : TakesUp dialect query ts := by
  have hquery : Query.ofTokens dialect ts = .ok q := by
    rw [Query.parse, htokens] at hparse
    dsimp only at hparse
    cases hread : Query.ofTokens dialect ts <;> rw [hread] at hparse <;> cases hparse
    rfl
  have hread : (StatementReader.after dialect ts 0).read.1 = .ok q := hquery
  have hend := (StatementReader.after_of_ok hread).1
  refine ⟨htokens, ⟨q, hparse, hquery⟩, ?_⟩
  obtain ⟨us, rfl, hus⟩ := exists_tokens_of_tokenize htokens
  have hcut : (us ++ [Token.eof query.utf8ByteSize]).takeWhile (!·.isEof) = us ++ [] := by
    rw [StatementReader.takeWhile_append_ending hus rfl, List.append_nil]
  rw [StatementReader.findIdx_isEof hcut] at hend
  rw [List.length_append]
  exact congrArg (· + 1) hend

/-- How the commands agree on a statement. -/
structure CommandsAgree (dialect : Dialect) (query : String)
    (check tokens tree document : Outcome) : Prop where
  tree : TreeAgrees check tree
  document : TreeAgrees check document
  /-- The tokens cannot be listed exactly if the check fails at them. -/
  tokens_iff : tokens.code = 1 ↔ BeginsWith check.output "Lexical error: "
  /-- Then both print the same. -/
  output : tokens.code = 1 → tokens.output = check.output
  /-- The tokens that the parse of a valid statement takes up are listed. -/
  listed : check.code = 0 →
    tokens.code = 0 ∧ ∃ ts, TakesUp dialect query ts ∧ tokens.output = listing ts

/-- The check of a statement that can be cut into tokens does not fail at them. -/
theorem not_beginsWith_lexical {ts : List Token} (h : tokenize dialect query = .ok ts) :
    ¬ BeginsWith (Outcome.ofCheck dialect [query]).output "Lexical error: " := by
  cases hparse : Query.parse dialect query with
  | ok q =>
    rw [ofCheck_of_ok hparse]
    decide
  | error e =>
    rw [ofCheck_of_error hparse, beginsWith_failure_iff (by decide)]
    cases e with
    | lexical cause =>
      rw [tokenize_eq_error_of_parse hparse] at h
      cases h
    | syntactic cause => exact (by decide : "Lexical error: " ≠ "Syntax error: ")

theorem commandsAgree (dialect : Dialect) (query : String) :
    CommandsAgree dialect query (.ofCheck dialect [query]) (.ofTokens dialect query)
      (.ofTree dialect false query) (.ofTree dialect true query) := by
  have htree := treeAgrees_ofTree dialect false query
  have hdocument := treeAgrees_ofTree dialect true query
  cases htokens : tokenize dialect query with
  | error e =>
    have hparse : Query.parse dialect query = .error (.lexical e) := by
      rw [Query.parse, htokens]
    have hsame : Outcome.ofTokens dialect query = .ofCheck dialect [query] := by
      rw [ofCheck_of_error hparse, Outcome.ofTokens, htokens]
      rfl
    refine ⟨htree, hdocument, ?_, fun _ => congrArg Outcome.output hsame, ?_⟩
    · rw [hsame, ofCheck_of_error hparse, beginsWith_failure_iff (by decide)]
      exact iff_of_true rfl rfl
    · rw [ofCheck_of_error hparse]
      intro hcode
      cases hcode
  | ok ts =>
    have hlisting : Outcome.ofTokens dialect query = ⟨listing ts, 0⟩ := by
      rw [Outcome.ofTokens, htokens]
    rw [hlisting]
    refine ⟨htree, hdocument, iff_of_false Nat.zero_ne_one (not_beginsWith_lexical htokens),
      ?_, ?_⟩
    · intro hcode
      cases hcode
    · intro hcode
      cases hparse : Query.parse dialect query with
      | error e =>
        rw [ofCheck_of_error hparse] at hcode
        cases hcode
      | ok q => exact ⟨rfl, ts, takesUp_of_ok htokens hparse, rfl⟩

/-! ## Outcomes from the command line -/

variable {environment : Option String} {outer inner : List String} {verbose : Bool}

/-- Whatever reads the arguments, the commands agree on a statement behind the separator. -/
theorem ArgumentReader.Lawful.commandsAgree {reader : ArgumentReader} (hreader : reader.Lawful)
    (h : reader environment (outer ++ "check" :: inner) = .ok ⟨.check [], dialect, verbose⟩)
    (hseparator : "--" ∉ outer ++ inner) (query : String) (input : ByteArray) :
    CommandsAgree dialect query
      (reader.respond environment (outer ++ "check" :: inner ++ ["--", query]) input)
      (reader.respond environment (outer ++ "tokens" :: inner ++ ["--", query]) input)
      (reader.respond environment (outer ++ "tree" :: inner ++ ["--", query]) input)
      (reader.respond environment (outer ++ "tree" :: "--json" :: inner ++ ["--", query])
        input) := by
  rw [List.mem_append, not_or] at hseparator
  obtain ⟨houter, hinner⟩ := hseparator
  obtain ⟨htokens, htree, hdocument⟩ := hreader.exchange h houter
  have hcheck := hreader.check_append h (by simp [houter, hinner]) [query]
  have htokens := hreader.tokens_append htokens (by simp [houter, hinner]) query
  have htree := hreader.tree_append htree (by simp [houter, hinner]) query
  have hdocument := hreader.tree_append hdocument (by simp [houter, hinner]) query
  rw [respond, respond, respond, respond, hcheck, htokens, htree, hdocument]
  exact SelectLang.commandsAgree dialect query

end SelectLang

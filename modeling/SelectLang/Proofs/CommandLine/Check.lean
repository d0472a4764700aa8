import SelectLang.CommandLine.Outcome
import SelectLang.Proofs.CommandLine.Invocation
import SelectLang.Proofs.Lexical.Concatenation
import SelectLang.Proofs.Text.Entries

/-!
# What a check prints

A check prints one line for each statement, in order, whether the statements are arguments or lines
of the input, and its code tells whether all of them are valid (`respond_check`).  This is so in
every dialect that options choose, and that is every one (`exists_parse_eq_check`).

That there is one line for each rests on the verdicts: they hold no blank but the space
(`onOneLine_verdict`), although some show a character of the statement, because no blank is ever the
character that a statement fails at.
-/

namespace SelectLang

open Text

/-! ## Texts on one line -/

/-- The character is a blank that could end a line. -/
def endsLine (c : Char) : Bool := isBlank c && c != ' '

/-- No character of the text ends a line: the only blank in it is the space. -/
def OnOneLine (s : String) : Prop := ∀ c ∈ s.toList, endsLine c = false

instance (s : String) : Decidable (OnOneLine s) :=
  List.decidableBAll (fun c => endsLine c = false) s.toList

theorem endsLine_eq_false_of_isBlank {c : Char} (h : isBlank c = false) : endsLine c = false := by
  rw [endsLine, h, Bool.false_and]

theorem onOneLine_append {s t : String} : OnOneLine (s ++ t) ↔ OnOneLine s ∧ OnOneLine t := by
  simp [OnOneLine, or_imp, forall_and]

theorem onOneLine_repr (n : Nat) : OnOneLine n.repr := by
  intro c hc
  apply endsLine_eq_false_of_isBlank
  exact isBlank_eq_false_of_continuesWord (continuesWord_of_isDigit (isDigit_of_mem_repr hc))

theorem onOneLine_toString {c : Char} (h : isBlank c = false) : OnOneLine c.toString := by
  intro d hd
  obtain rfl : d = c := by simpa using hd
  exact endsLine_eq_false_of_isBlank h

theorem onOneLine_name (kind : Kind) : OnOneLine kind.name := by
  rcases kind with (_ | _) | _ | _ | _ | _ | _ | _ | (_ | _) | _ <;> decide

/-! ## Verdicts -/

theorem onOneLine_unexpectedCharacter {c : Char} (h : isBlank c = false) (position : Nat) :
    OnOneLine (LexicalError.unexpectedCharacter c position).message := by
  change OnOneLine ("unexpected character '" ++ c.toString ++ "' at position " ++ position.repr)
  rw [onOneLine_append, onOneLine_append, onOneLine_append]
  exact ⟨⟨⟨by decide, onOneLine_toString h⟩, by decide⟩, onOneLine_repr position⟩

theorem onOneLine_unterminatedString (quote : Char) (position : Nat) :
    OnOneLine (LexicalError.unterminatedString quote position).message := by
  change OnOneLine ("unterminated string literal starting at position " ++ position.repr)
  rw [onOneLine_append]
  exact ⟨by decide, onOneLine_repr position⟩

/-- The character that a text fails at is no blank. -/
theorem onOneLine_of_cut_eq_error {quotes : QuoteStyle} {cs : List Char} {offset : Nat}
    {e : LexicalError} (h : cut quotes cs offset = .error e) : OnOneLine e.message := by
  obtain ⟨items, rest, after, -, -, hfails⟩ := exists_fails_of_cut h
  cases hfails with
  | stray hgap hblank hbegins => exact onOneLine_unexpectedCharacter hblank _
  | unclosed hgap hquote hcontent => exact onOneLine_unterminatedString _ _

theorem onOneLine_message (e : SyntaxError) : OnOneLine e.message := by
  obtain ⟨expected, found, text, position⟩ := e
  change OnOneLine (_ ++ " at position " ++ position.repr)
  rw [onOneLine_append, onOneLine_append]
  refine ⟨⟨?_, by decide⟩, onOneLine_repr position⟩
  cases expected with
  | kind k =>
    simp only [onOneLine_append]
    exact ⟨⟨⟨by decide, onOneLine_name k⟩, by decide⟩, onOneLine_name _⟩
  | comparator =>
    simp only [onOneLine_append]
    exact ⟨by decide, onOneLine_name _⟩
  | operand =>
    simp only [onOneLine_append]
    exact ⟨by decide, onOneLine_name _⟩
  | endOfStatement =>
    simp only [onOneLine_append]
    exact ⟨⟨by decide, onOneLine_name _⟩, by decide⟩

theorem tokenize_eq_error_of_parse {dialect : Dialect} {source : String} {e : LexicalError}
    (h : Query.parse dialect source = .error (.lexical e)) :
    tokenize dialect source = .error e := by
  rw [Query.parse] at h
  cases htokens : tokenize dialect source with
  | error e' =>
    rw [htokens] at h
    rw [QueryError.lexical.inj (Except.error.inj h)]
  | ok ts =>
    rw [htokens] at h
    dsimp only at h
    cases hquery : Query.ofTokens dialect ts <;> rw [hquery] at h <;> cases h

/-- The verdict on a statement is one line. -/
theorem onOneLine_verdict (dialect : Dialect) (source : String) :
    OnOneLine (verdict (Query.parse dialect source)) := by
  cases hparse : Query.parse dialect source with
  | ok q =>
    change OnOneLine "Valid SQL query!"
    decide
  | error e =>
    cases e with
    | lexical e =>
      change OnOneLine ("Lexical error: " ++ e.message)
      rw [onOneLine_append]
      exact ⟨by decide, onOneLine_of_cut_eq_error (tokenize_eq_error_of_parse hparse)⟩
    | syntactic e =>
      change OnOneLine ("Syntax error: " ++ e.message)
      rw [onOneLine_append]
      exact ⟨by decide, onOneLine_message e⟩

/-- Only a valid statement is called one: the other verdicts begin with other letters. -/
theorem verdict_eq_valid_iff {result : Except QueryError Query} :
    verdict result = "Valid SQL query!" ↔ ∃ q, result = .ok q := by
  have hhead : ∀ {s t : String}, s = t → s.toList.head? = t.toList.head? := by
    rintro s _ rfl
    rfl
  rcases result with (e | e) | q
  · change "Lexical error: " ++ e.message = _ ↔ _
    simp only [reduceCtorEq, exists_false, iff_false]
    intro h
    simpa using hhead h
  · change "Syntax error: " ++ e.message = _ ↔ _
    simp only [reduceCtorEq, exists_false, iff_false]
    intro h
    simpa using hhead h
  · exact ⟨fun _ => ⟨q, rfl⟩, fun _ => rfl⟩

/-- The verdicts on the statements of a list, each by itself. -/
def verdicts (dialect : Dialect) (queries : List String) : List String :=
  queries.map fun query => verdict (Query.parse dialect query)

theorem onOneLine_of_mem_verdicts {dialect : Dialect} {queries : List String} {line : String}
    (h : line ∈ verdicts dialect queries) : OnOneLine line := by
  obtain ⟨query, -, rfl⟩ := List.mem_map.1 h
  exact onOneLine_verdict dialect query

/-! ## Checks -/

/-- What a check of some statements comes to: a line with the verdict on each, in order, none of
which could be taken for more than one; the statement is called valid exactly if it is parsed; and
the code is 0 exactly if all are. -/
structure Checks (dialect : Dialect) (queries : List String) (outcome : Outcome) : Prop where
  output : outcome.output = String.join ((verdicts dialect queries).map (· ++ "\n"))
  onOneLine : ∀ line ∈ verdicts dialect queries, OnOneLine line
  lines : outcome.output.toList.splitOnP endsLine =
    (verdicts dialect queries).map String.toList ++ [[]]
  valid_iff : ∀ (i : Nat) (query : String), queries[i]? = some query →
    ((verdicts dialect queries)[i]? = some "Valid SQL query!" ↔
      ∃ q, Query.parse dialect query = .ok q)
  code : outcome.code =
    if ∀ line ∈ verdicts dialect queries, line = "Valid SQL query!" then 0 else 1

theorem all_isOk_iff (dialect : Dialect) (queries : List String) :
    (queries.map (Query.parse dialect)).all (·.isOk) = true ↔
      ∀ line ∈ verdicts dialect queries, line = "Valid SQL query!" := by
  have hisOk : ∀ {result : Except QueryError Query},
      result.isOk = true ↔ verdict result = "Valid SQL query!" := by
    intro result
    rw [verdict_eq_valid_iff]
    cases result <;> simp [Except.isOk, Except.toBool]
  simp [verdicts, hisOk]

theorem checks_ofCheck (dialect : Dialect) (queries : List String) :
    Checks dialect queries (.ofCheck dialect queries) := by
  have houtput : (Outcome.ofCheck dialect queries).output =
      String.join ((verdicts dialect queries).map (· ++ "\n")) := by
    simp [Outcome.ofCheck, verdicts, Function.comp_def]
  constructor
  · exact houtput
  · intro line hline
    exact onOneLine_of_mem_verdicts hline
  · rw [houtput]
    exact splitOnP_join (by decide) fun line hline => onOneLine_of_mem_verdicts hline
  · intro i query hquery
    rw [verdicts, List.getElem?_map, hquery, Option.map_some, Option.some.injEq]
    exact verdict_eq_valid_iff
  · exact if_congr (all_isOk_iff dialect queries) rfl rfl

theorem ofCheck_append (dialect : Dialect) (first second : List String) :
    (Outcome.ofCheck dialect (first ++ second)).output =
        (Outcome.ofCheck dialect first).output ++ (Outcome.ofCheck dialect second).output ∧
      (Outcome.ofCheck dialect (first ++ second)).code =
        max (Outcome.ofCheck dialect first).code (Outcome.ofCheck dialect second).code := by
  constructor
  · simp [Outcome.ofCheck]
  · simp only [Outcome.ofCheck, List.map_append, List.all_append, Bool.and_eq_true]
    by_cases hfirst : (first.map (Query.parse dialect)).all (·.isOk) = true
    · by_cases hsecond : (second.map (Query.parse dialect)).all (·.isOk) = true
      · simp [hfirst, hsecond]
      · simp [hfirst, hsecond]
    · by_cases hsecond : (second.map (Query.parse dialect)).all (·.isOk) = true
      · simp [hfirst, hsecond]
      · simp [hfirst, hsecond]

/-! ## Checks from the command line -/

theorem fromUTF8?_toUTF8 (text : String) : String.fromUTF8? text.toUTF8 = some text := by
  have hvalid : text.toUTF8.IsValidUTF8 := text.isValidUTF8
  rw [String.fromUTF8?, dif_pos hvalid]
  rfl

variable {reader : ArgumentReader} {environment : Option String} {args queries : List String}
  {dialect : Dialect} {verbose : Bool}

theorem ArgumentReader.respond_of_check
    (h : reader environment args = .ok ⟨.check queries, dialect, verbose⟩)
    (hqueries : queries ≠ []) (input : ByteArray) :
    reader.respond environment args input = .ofCheck dialect queries := by
  rw [ArgumentReader.respond, h]
  cases queries with
  | nil => exact absurd rfl hqueries
  | cons query queries => rfl

theorem ArgumentReader.respond_of_check_input
    (h : reader environment args = .ok ⟨.check [], dialect, verbose⟩) (text : String) :
    reader.respond environment args text.toUTF8 = .ofCheck dialect (splitBatch text) := by
  rw [ArgumentReader.respond, h]
  change Outcome.ofText? _ (String.fromUTF8? text.toUTF8) = _
  rw [fromUTF8?_toUTF8]
  rfl

/-- How a check responds to statements in the dialect that some arguments choose, which hold no
statement themselves. -/
structure CheckLaw (reader : ArgumentReader) (environment : Option String) (args : List String)
    (dialect : Dialect) (verbose : Bool) : Prop where
  /-- Statements behind the separator reach the check as they are. -/
  verbatim : ∀ queries, reader environment (args ++ "--" :: queries) =
    .ok ⟨.check queries, dialect, verbose⟩
  /-- Statements among the arguments are checked in order, behind a separator or not. -/
  arguments : ∀ (args' queries : List String),
    reader environment args' = .ok ⟨.check queries, dialect, verbose⟩ → queries ≠ [] →
      ∀ input, Checks dialect queries (reader.respond environment args' input)
  /-- Without any, the lines of the input are. -/
  input : ∀ text, Checks dialect (splitBatch text) (reader.respond environment args text.toUTF8)
  /-- Two lists of statements are checked together as they are one after the other. -/
  concatenation : ∀ (first second : List String), first ≠ [] → second ≠ [] → ∀ input,
    (reader.respond environment (args ++ "--" :: (first ++ second)) input).output =
        (reader.respond environment (args ++ "--" :: first) input).output ++
          (reader.respond environment (args ++ "--" :: second) input).output ∧
      (reader.respond environment (args ++ "--" :: (first ++ second)) input).code =
        max (reader.respond environment (args ++ "--" :: first) input).code
          (reader.respond environment (args ++ "--" :: second) input).code

/-- Whatever reads the arguments, a check responds like this. -/
theorem ArgumentReader.Lawful.checkLaw (hreader : reader.Lawful)
    (h : reader environment args = .ok ⟨.check [], dialect, verbose⟩) (hargs : "--" ∉ args) :
    CheckLaw reader environment args dialect verbose := by
  have hseparated : ∀ queries, reader environment (args ++ "--" :: queries) =
      .ok ⟨.check queries, dialect, verbose⟩ := hreader.check_append h hargs
  constructor
  · exact hseparated
  · intro args' queries hparse hqueries input
    rw [ArgumentReader.respond_of_check hparse hqueries]
    exact checks_ofCheck dialect queries
  · intro text
    rw [ArgumentReader.respond_of_check_input h]
    exact checks_ofCheck dialect (splitBatch text)
  · intro first second hfirst hsecond input
    have hboth : first ++ second ≠ [] := by simp [hfirst]
    rw [ArgumentReader.respond_of_check (hseparated _) hboth,
      ArgumentReader.respond_of_check (hseparated _) hfirst,
      ArgumentReader.respond_of_check (hseparated _) hsecond]
    exact ofCheck_append dialect first second

/-- There are options for every dialect. -/
theorem exists_parse_eq_check (dialect : Dialect) :
    ∃ args, "--" ∉ args ∧ Invocation.parse none args = .ok ⟨.check [], dialect, false⟩ := by
  obtain ⟨required, quotes⟩ := dialect
  cases required with
  | false =>
    cases quotes with
    | single => exact ⟨["check", "--quotes", "single"], by decide, by decide⟩
    | double => exact ⟨["check", "--quotes", "double"], by decide, by decide⟩
    | both => exact ⟨["check"], by decide, by decide⟩
  | true =>
    cases quotes with
    | single =>
      exact ⟨["check", "--quotes", "single", "--require-semicolon"], by decide, by decide⟩
    | double =>
      exact ⟨["check", "--quotes", "double", "--require-semicolon"], by decide, by decide⟩
    | both => exact ⟨["check", "--require-semicolon"], by decide, by decide⟩

/-- A check prints the verdict on each statement on a line of its own, and its code is 0 if all of
them are valid. -/
theorem respond_check
    (h : Invocation.parse environment args = .ok ⟨.check [], dialect, verbose⟩)
    (hargs : "--" ∉ args) : CheckLaw argumentReader environment args dialect verbose :=
  lawful_argumentReader.checkLaw (argumentReader_eq_ok_iff.2 h) hargs

/-- Options stand on both sides of the command, and the environment is asked as well. -/
theorem respond_check_double :
    Invocation.parse (some "Yes") ["--quotes", "double", "check", "-v"] =
        .ok ⟨.check [], ⟨true, .double⟩, true⟩ ∧
      "--" ∉ ["--quotes", "double", "check", "-v"] ∧
      CheckLaw argumentReader (some "Yes") ["--quotes", "double", "check", "-v"] ⟨true, .double⟩
        true := by
  have hparse : Invocation.parse (some "Yes") ["--quotes", "double", "check", "-v"] =
      .ok ⟨.check [], ⟨true, .double⟩, true⟩ := by decide
  have hseparator : "--" ∉ ["--quotes", "double", "check", "-v"] := by decide
  exact ⟨hparse, hseparator, respond_check hparse hseparator⟩

/-- A line separator in a statement is a blank like others, and no verdict shows it. -/
example :
    respond none ["check", "--", "SELECT\u2028a FROM t", "SELECT a FROM t ?"] .empty =
      ⟨"Valid SQL query!\nLexical error: unexpected character '?' at position 16\n", 1⟩ := by
  decide +kernel

end SelectLang

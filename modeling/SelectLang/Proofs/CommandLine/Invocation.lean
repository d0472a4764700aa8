import SelectLang.CommandLine.Outcome
import SelectLang.Proofs.CommandLine.Arguments

/-!
# Arguments that make an invocation

What arguments ask for is settled by the options on both sides of the command, the statements, and
the environment (`parse_eq_ok_iff`).

Arguments that make an invocation still make it when a separator and more arguments are put behind
them; those reach the command as statements, as they are and in order, whatever they look like
(`exists_parse_append`).  The options that a check is given do for the other commands as well: with
the name of another command in its place, the same arguments make an invocation of that command in
the same dialect (`parse_of_parse_check`).
-/

namespace SelectLang

namespace Invocation

/-! ## Tasks -/

theorem eq_check_of_task {command : Command} {json : Bool} {queries queries' : List String}
    (h : command.task json queries = .check queries') : command = .check ∧ queries = queries' := by
  cases command with
  | check => exact ⟨rfl, Task.check.inj h⟩
  | tokens => cases h
  | tree => cases h

/-- Without a statement among the arguments the input is read. -/
theorem eq_nil_of_readsInput {command : Command} {json : Bool} {queries : List String}
    {dialect : Dialect} {verbose : Bool}
    (h : readsInput ⟨command.task json queries, dialect, verbose⟩ = true) : queries = [] := by
  cases command <;> simpa [readsInput, Command.task] using h

/-! ## What arguments ask for -/

/-- What the arguments ask for, from the options on both sides of the command. -/
inductive AsksFor (environment : Option String) (args : List String) : Invocation → Prop
  | intro {outer inner : Options} {command : Command} {rest : List Argument}
      {queries : List String} {required : Bool}
      (hcommand : ReadsCommand {} (Argument.ofStrings args) outer command rest)
      (hrest : ReadsRest command {} rest inner queries)
      (hcount : command = .check ∨ queries.length ≤ 1)
      (hrequired : semicolonRequired outer inner environment = .ok required) :
      AsksFor environment args
        ⟨command.task inner.json queries, ⟨required, (inner.quotes <|> outer.quotes).getD .both⟩,
          outer.verbose || inner.verbose⟩

variable {environment : Option String} {args before behind : List String}
  {invocation : Invocation} {dialect : Dialect} {verbose : Bool}

theorem parse_eq_ok_iff :
    parse environment args = .ok invocation ↔ AsksFor environment args invocation := by
  constructor
  · intro h
    obtain ⟨⟨outer, command, rest⟩, hcommand, h⟩ := exists_of_bind_eq_ok h
    obtain ⟨⟨inner, queries⟩, hrest, h⟩ := exists_of_bind_eq_ok h
    obtain ⟨required, hrequired, h⟩ := exists_of_bind_eq_ok h
    obtain rfl := Except.ok.inj h
    obtain ⟨hrest, hcount⟩ := readRest_eq_ok_iff.1 hrest
    rw [Bool.toNat_false, Nat.zero_add] at hcount
    exact ⟨readCommand_eq_ok_iff.1 hcommand, hrest, hcount, hrequired⟩
  · rintro @⟨outer, inner, command, rest, queries, required, hcommand, hrest, hcount, hrequired⟩
    have hrest' : readRest command false {} rest = .ok (inner, queries) :=
      readRest_eq_ok_iff.2 ⟨hrest, by rwa [Bool.toNat_false, Nat.zero_add]⟩
    rw [parse, readCommand_eq_ok_iff.2 hcommand]
    change (readRest _ false {} _ >>= _) = _
    rw [hrest']
    change (semicolonRequired _ _ environment >>= _) = _
    rw [hrequired]
    rfl

/-- The options of an invocation are complete. -/
theorem AsksFor.isComplete (h : AsksFor environment args invocation) :
    ∀ arg ∈ Argument.ofStrings args, arg.IsComplete := by
  obtain ⟨hcommand, hrest, -, -⟩ := h
  exact hcommand.isComplete hrest.isComplete

/-- Arguments behind a separator are statements for the command before it, and change nothing
else. -/
theorem exists_parse_append (h : parse environment args = .ok invocation) (hargs : "--" ∉ args) :
    ∃ (command : Command) (json : Bool) (queries : List String),
      invocation.task = command.task json queries ∧
        ∀ more, command = .check ∨ (queries ++ more).length ≤ 1 →
          parse environment (args ++ "--" :: more) =
            .ok { invocation with task := command.task json (queries ++ more) } := by
  rw [parse_eq_ok_iff] at h
  have hquotes : .flag "--quotes" ∉ Argument.ofStrings args := fun hmem =>
    h.isComplete _ hmem rfl
  obtain @⟨outer, inner, command, rest, queries, required, hcommand, hrest, hcount,
    hrequired⟩ := h
  refine ⟨command, inner.json, queries, rfl, fun more hcount' => ?_⟩
  rw [parse_eq_ok_iff]
  refine .intro ?_ (hrest.append more) hcount' hrequired
  rw [Argument.ofStrings_append hargs hquotes, Argument.ofStrings_separator]
  exact hcommand.append _

/-- Behind the separator the statements of a check go on. -/
theorem parse_check_append {queries : List String}
    (h : parse environment args = .ok ⟨.check queries, dialect, verbose⟩) (hargs : "--" ∉ args)
    (more : List String) :
    parse environment (args ++ "--" :: more) =
      .ok ⟨.check (queries ++ more), dialect, verbose⟩ := by
  obtain ⟨command, json, queries', htask, hparse⟩ := exists_parse_append h hargs
  obtain ⟨rfl, rfl⟩ := eq_check_of_task htask.symm
  exact hparse more (Or.inl rfl)

/-- A command that reads its statement from the input takes one behind the separator instead. -/
theorem exists_parse_append_singleton (h : parse environment args = .ok invocation)
    (hinput : invocation.readsInput = true) (hargs : "--" ∉ args) :
    ∃ (command : Command) (json : Bool), invocation.task = command.task json [] ∧
      ∀ query, parse environment (args ++ ["--", query]) =
        .ok { invocation with task := command.task json [query] } := by
  obtain ⟨task, dialect, verbose⟩ := invocation
  obtain ⟨command, json, queries, rfl, hparse⟩ := exists_parse_append h hargs
  obtain rfl := eq_nil_of_readsInput hinput
  exact ⟨command, json, rfl, fun query => hparse [query] (Or.inr (Nat.le_refl 1))⟩

/-- Behind the separator stands the statement whose tokens are listed. -/
theorem parse_tokens_append
    (h : parse environment args = .ok ⟨.tokens none, dialect, verbose⟩) (hargs : "--" ∉ args)
    (query : String) :
    parse environment (args ++ ["--", query]) =
      .ok ⟨.tokens (some query), dialect, verbose⟩ := by
  obtain ⟨command, json, htask, hparse⟩ := exists_parse_append_singleton h rfl hargs
  cases command <;> cases htask
  exact hparse query

/-- Behind the separator stands the statement that is drawn. -/
theorem parse_tree_append {json : Bool}
    (h : parse environment args = .ok ⟨.tree none json, dialect, verbose⟩) (hargs : "--" ∉ args)
    (query : String) :
    parse environment (args ++ ["--", query]) =
      .ok ⟨.tree (some query) json, dialect, verbose⟩ := by
  obtain ⟨command, json', htask, hparse⟩ := exists_parse_append_singleton h rfl hargs
  cases command <;> cases htask
  exact hparse query

/-- In place of a check there may be another command, behind the same options. -/
theorem AsksFor.exchange
    (h : AsksFor environment (before ++ "check" :: behind) ⟨.check [], dialect, verbose⟩)
    (hbefore : "--" ∉ before) :
    ∃ inner, ReadsRest .check {} (Argument.ofStrings behind) inner [] ∧
      ∀ (json : Bool) {word command behind'}, Command.ofWord? word = some command →
        ReadsRest command {} (Argument.ofStrings behind') { inner with json } [] →
          AsksFor environment (before ++ word :: behind')
            ⟨command.task json [], dialect, verbose⟩ := by
  -- a quote style that is missing would be the name of the command, which names none
  have hquotes : .flag "--quotes" ∉ Argument.ofStrings before := by
    intro hmem
    have hsetting := Argument.setting_mem_ofStrings_append hbefore hmem "check" behind
    exact h.isComplete _ hsetting (by decide)
  have hforms : ∀ {word command}, Command.ofWord? word = some command → ∀ behind',
      Argument.ofStrings (before ++ word :: behind') =
        Argument.ofStrings before ++ .plain word :: Argument.ofStrings behind' := by
    intro word command hword behind'
    rw [Argument.ofStrings_append hbefore hquotes, Argument.ofStrings_command hword]
  generalize hinvocation : (⟨.check [], dialect, verbose⟩ : Invocation) = invocation at h
  obtain @⟨outer, inner, command, rest, queries, required, hcommand, hrest, -, hrequired⟩ := h
  obtain ⟨htask, rfl, rfl⟩ := Invocation.mk.inj hinvocation
  obtain ⟨rfl, rfl⟩ := eq_check_of_task htask.symm
  rw [hforms rfl] at hcommand
  obtain ⟨-, rfl, hothers⟩ := hcommand.exchange fun hmem => by cases hrest.mem_iff.2 hmem
  refine ⟨_, hrest, fun json {word command behind'} hword hbehind => ?_⟩
  have hcommand' := hothers word command (Argument.ofStrings behind') hword
  rw [← hforms hword] at hcommand'
  have hasks := AsksFor.intro hcommand' hbehind (Or.inr (Nat.zero_le 1)) hrequired
  exact hasks

/-- A command with options that do for a check is an invocation of its own. -/
theorem parse_of_parse_check
    (h : parse environment (before ++ "check" :: behind) = .ok ⟨.check [], dialect, verbose⟩)
    (hbefore : "--" ∉ before) :
    parse environment (before ++ "tokens" :: behind) = .ok ⟨.tokens none, dialect, verbose⟩ ∧
      parse environment (before ++ "tree" :: behind) = .ok ⟨.tree none false, dialect, verbose⟩ ∧
      parse environment (before ++ "tree" :: "--json" :: behind) =
        .ok ⟨.tree none true, dialect, verbose⟩ := by
  simp only [parse_eq_ok_iff] at h ⊢
  obtain ⟨inner, hrest, hothers⟩ := h.exchange hbefore
  have hjson : ReadsRest .tree {} (Argument.ofStrings ("--json" :: behind))
      { inner with json := true } [] := by
    rw [Argument.ofStrings_cons (by simp) (by decide)]
    exact .option (.flag rfl) (hrest.of_check .tree true)
  exact ⟨hothers false rfl (hrest.of_check .tokens false),
    hothers false rfl (hrest.of_check .tree false), hothers true rfl hjson⟩

end Invocation

/-! ## Readers of arguments -/

/-- What is documented of the reader of arguments, and all that the commands rely on: the two dashes
end the options, and what stands behind them is taken as it is and in order; and an option of all
commands may stand on either side of each. -/
structure ArgumentReader.Lawful (reader : ArgumentReader) : Prop where
  /-- A check takes all that stands behind the separator, after the statements before it. -/
  check_append : ∀ {environment args queries dialect verbose},
    reader environment args = .ok ⟨.check queries, dialect, verbose⟩ → "--" ∉ args → ∀ more,
      reader environment (args ++ "--" :: more) = .ok ⟨.check (queries ++ more), dialect, verbose⟩
  tokens_append : ∀ {environment args dialect verbose},
    reader environment args = .ok ⟨.tokens none, dialect, verbose⟩ → "--" ∉ args → ∀ query,
      reader environment (args ++ ["--", query]) = .ok ⟨.tokens (some query), dialect, verbose⟩
  tree_append : ∀ {environment args json dialect verbose},
    reader environment args = .ok ⟨.tree none json, dialect, verbose⟩ → "--" ∉ args → ∀ query,
      reader environment (args ++ ["--", query]) = .ok ⟨.tree (some query) json, dialect, verbose⟩
  /-- The options that a check is given do for the other commands. -/
  exchange : ∀ {environment before behind dialect verbose},
    reader environment (before ++ "check" :: behind) = .ok ⟨.check [], dialect, verbose⟩ →
      "--" ∉ before →
        reader environment (before ++ "tokens" :: behind) = .ok ⟨.tokens none, dialect, verbose⟩ ∧
        reader environment (before ++ "tree" :: behind) =
          .ok ⟨.tree none false, dialect, verbose⟩ ∧
        reader environment (before ++ "tree" :: "--json" :: behind) =
          .ok ⟨.tree none true, dialect, verbose⟩

theorem argumentReader_eq_ok_iff {environment : Option String} {args : List String}
    {invocation : Invocation} :
    argumentReader environment args = .ok invocation ↔
      Invocation.parse environment args = .ok invocation := by
  rw [argumentReader]
  cases Invocation.parse environment args with
  | error _ => constructor <;> intro h <;> cases h
  | ok _ => constructor <;> intro h <;> cases h <;> rfl

theorem lawful_argumentReader : argumentReader.Lawful := by
  constructor <;> simp only [argumentReader_eq_ok_iff]
  case check_append => exact Invocation.parse_check_append
  case tokens_append => exact Invocation.parse_tokens_append
  case tree_append => exact Invocation.parse_tree_append
  case exchange => exact Invocation.parse_of_parse_check

end SelectLang

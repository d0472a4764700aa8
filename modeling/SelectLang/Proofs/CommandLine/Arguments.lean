import SelectLang.CommandLine.Arguments

/-!
# Arguments on both sides of a command

Arguments are read as options, a command, and options and statements in any order.  Two relations
say so, one for each side of the command (`readCommand_eq_ok_iff`, `readRest_eq_ok_iff`), and what
can be put behind the arguments or in their place is read off them: behind a separator every argument
is a statement (`ReadsRest.append`), the command may be exchanged for another one
(`ReadsCommand.exchange`), and what stands behind a check may stand behind every command
(`ReadsRest.of_check`).

How an argument is read can depend on the one before it, since the option `--quotes` takes the next
argument for its value (`ofStrings_append`); in arguments that are read it is never without one
(`ReadsCommand.isComplete`, `ReadsRest.isComplete`).
-/

namespace SelectLang

theorem exists_of_bind_eq_ok {ε α β : Type} {x : Except ε α} {f : α → Except ε β} {b : β}
    (h : x >>= f = .ok b) : ∃ a, x = .ok a ∧ f a = .ok b := by
  cases x with
  | error e => cases h
  | ok a => exact ⟨a, rfl, h⟩

/-! ## Forms -/

namespace Argument

theorem eq_of_ofString_eq_separator {arg : String} (h : ofString arg = .separator) :
    arg = "--" := by
  rw [ofString] at h
  split at h
  · rename_i hdashes
    rw [← String.ofList_toList (s := arg), hdashes]
  · split at h <;> cases h
  · cases h
  · cases h

theorem ofStrings_separator (queries : List String) :
    ofStrings ("--" :: queries) = .separator :: queries.map .plain := by
  rw [ofStrings]
  · rfl
  · intro _ _ h
    exact absurd h (by decide)

theorem ofStrings_cons {arg : String} {rest : List String}
    (hquotes : ∀ value others, arg = "--quotes" → rest = value :: others → False)
    (hform : ofString arg ≠ .separator) :
    ofStrings (arg :: rest) = ofString arg :: ofStrings rest := by
  rw [ofStrings]
  · split
    · rename_i hseparator
      exact absurd hseparator hform
    · rfl
  · exact hquotes

theorem ofStrings_command {word : String} {command : Command}
    (hword : Command.ofWord? word = some command) (rest : List String) :
    ofStrings (word :: rest) = .plain word :: ofStrings rest := by
  have hform : ofString word = .plain word ∧ word ≠ "--quotes" := by
    unfold Command.ofWord? at hword
    split at hword
    case h_1 | h_2 | h_3 => decide
    case h_4 => cases hword
  rw [ofStrings_cons (fun _ _ h => absurd h hform.2), hform.1]
  rw [hform.1]
  exact Argument.noConfusion

/-- Arguments behind others are read by themselves, unless an option takes the first of them for its
value. -/
theorem ofStrings_append {args : List String} (hargs : "--" ∉ args)
    (hquotes : .flag "--quotes" ∉ ofStrings args) (more : List String) :
    ofStrings (args ++ more) = ofStrings args ++ ofStrings more := by
  induction args using ofStrings.induct with
  | case1 => rfl
  | case2 value rest ih =>
    rw [ofStrings, List.mem_cons, not_or] at hquotes
    have hrest : "--" ∉ rest := by
      intro hmem
      exact hargs (by simp [hmem])
    rw [List.cons_append, List.cons_append, ofStrings, ofStrings, ih hrest hquotes.2,
      List.cons_append]
  | case3 arg rest _ hform =>
    obtain rfl := eq_of_ofString_eq_separator hform
    exact absurd List.mem_cons_self hargs
  | case4 arg rest hvalue hform ih =>
    rw [ofStrings_cons hvalue hform, List.mem_cons, not_or] at hquotes
    -- an option that still lacks its value would take what comes next
    have hvalue' : ∀ value others, arg = "--quotes" → rest ++ more = value :: others →
        False := by
      rintro value others rfl -
      exact hquotes.1 (by decide)
    rw [List.cons_append, ofStrings_cons hvalue' hform, ofStrings_cons hvalue hform,
      ih (fun hmem => hargs (List.mem_cons_of_mem _ hmem)) hquotes.2, List.cons_append]

theorem eq_of_ofString_eq_flag {arg word : String} (h : ofString arg = .flag word) :
    arg = word := by
  unfold ofString at h
  split at h
  · cases h
  · split at h
    · exact flag.inj h
    · cases h
  · exact flag.inj h
  · cases h

/-- An option that lacks its value takes what comes next for it. -/
theorem setting_mem_ofStrings_append {args : List String} (hargs : "--" ∉ args)
    (hquotes : .flag "--quotes" ∈ ofStrings args) (value : String) (more : List String) :
    .setting "--quotes" value ∈ ofStrings (args ++ value :: more) := by
  induction args using ofStrings.induct with
  | case1 => cases hquotes
  | case2 value' rest ih =>
    rw [ofStrings] at hquotes
    have hrest : "--" ∉ rest := by
      intro hmem
      exact hargs (by simp [hmem])
    rw [List.cons_append, List.cons_append, ofStrings]
    exact List.mem_cons_of_mem _ (ih hrest (by simpa using hquotes))
  | case3 arg rest _ hform =>
    obtain rfl := eq_of_ofString_eq_separator hform
    exact absurd List.mem_cons_self hargs
  | case4 arg rest hvalue hform ih =>
    by_cases harg : arg = "--quotes"
    · cases rest with
      | nil => simp [harg, ofStrings]
      | cons next others => exact absurd rfl (hvalue next others harg)
    · rw [ofStrings_cons hvalue hform, List.mem_cons] at hquotes
      rcases hquotes with hflag | hmem
      · exact absurd (eq_of_ofString_eq_flag hflag.symm) harg
      · have hrest : "--" ∉ rest := fun hmem => hargs (List.mem_cons_of_mem _ hmem)
        rw [List.cons_append, ofStrings_cons (fun _ _ h => absurd h harg) hform]
        exact List.mem_cons_of_mem _ (ih hrest hmem)

/-- The option that needs a value has one that it knows. -/
def IsComplete : Argument → Prop
  | .flag word => word ≠ "--quotes"
  | .setting _ value => QuoteStyle.ofWord? value ≠ none
  | _ => True

end Argument

/-! ## Options that are added -/

namespace Options

/-- The argument is an option before the command or behind one, and with it the options become
those found. -/
inductive Adds (command : Option Command) (options : Options) : Argument → Options → Prop
  | flag {word : String} {found : Options} (h : options.addFlag command word = .ok found) :
      Adds command options (.flag word) found
  | setting {word value : String} {found : Options}
      (h : options.addSetting word value = .ok found) :
      Adds command options (.setting word value) found

variable {command : Option Command} {options found : Options} {arg : Argument}

/-- An option that is added is complete. -/
theorem Adds.isComplete (h : options.Adds command arg found) : arg.IsComplete := by
  cases h with
  | flag h =>
    rintro rfl
    cases h
  | setting h =>
    intro hnone
    unfold addSetting at h
    split at h
    · rw [hnone] at h
      cases h
    · cases h

theorem addVerbose_json (h : options.addVerbose = .ok found) (json : Bool) :
    ({ options with json } : Options).addVerbose = .ok { found with json } := by
  unfold addVerbose at h ⊢
  split at h
  · cases h
  · rename_i hnew
    obtain rfl := Except.ok.inj h
    exact if_neg hnew

/-- Letters are options for all commands alike. -/
theorem addLetters_json {letters : List Char}
    (h : letters.foldlM (addLetter command) options = .ok found) (command' : Option Command)
    (json : Bool) :
    letters.foldlM (addLetter command') ({ options with json } : Options) =
      .ok { found with json } := by
  induction letters generalizing options with
  | nil =>
    obtain rfl := Except.ok.inj h
    rfl
  | cons letter letters ih =>
    rw [List.foldlM_cons] at h ⊢
    obtain ⟨options', hletter, hrest⟩ := exists_of_bind_eq_ok h
    have hletter' : addLetter command' { options with json } letter =
        .ok { options' with json } := by
      unfold addLetter at hletter ⊢
      split at hletter
      case h_1 => exact addVerbose_json hletter json
      case h_2 | h_3 | h_4 => cases hletter
    rw [hletter']
    exact ih hrest

theorem addFlag_json {word : String} (h : options.addFlag command word = .ok found)
    (hcommand : command ≠ some .tree) (command' : Option Command) (json : Bool) :
    ({ options with json } : Options).addFlag command' word = .ok { found with json } := by
  unfold addFlag at h ⊢
  split at h
  case h_1 =>
    split at h
    · cases h
    · rename_i hnew
      obtain rfl := Except.ok.inj h
      exact if_neg hnew
  case h_2 => exact addVerbose_json h json
  case h_3 =>
    rw [if_pos hcommand] at h
    cases h
  case h_4 | h_5 | h_6 => cases h
  case h_7 => exact addLetters_json h command' json

theorem addSetting_json {word value : String} (h : options.addSetting word value = .ok found)
    (json : Bool) :
    ({ options with json } : Options).addSetting word value = .ok { found with json } := by
  unfold addSetting at h ⊢
  split at h
  · cases hstyle : QuoteStyle.ofWord? value with
    | none =>
      rw [hstyle] at h
      cases h
    | some style =>
      rw [hstyle] at h
      dsimp only at h ⊢
      split at h
      · cases h
      · rename_i hnew
        obtain rfl := Except.ok.inj h
        exact if_neg hnew
  · cases h

/-- An option that is added where `--json` is unknown is added everywhere, whether that one is given
or not. -/
theorem Adds.json (h : options.Adds command arg found) (hcommand : command ≠ some .tree)
    (command' : Option Command) (json : Bool) :
    ({ options with json } : Options).Adds command' arg { found with json } := by
  cases h with
  | flag h => exact .flag (addFlag_json h hcommand command' json)
  | setting h => exact .setting (addSetting_json h json)

end Options

/-! ## Arguments around a command -/

namespace Invocation

/-- The arguments are options, a command, and the arguments that are left for it. -/
inductive ReadsCommand : Options → List Argument → Options → Command → List Argument → Prop
  | command {options : Options} {word : String} {command : Command} {rest : List Argument}
      (hword : Command.ofWord? word = some command) :
      ReadsCommand options (.plain word :: rest) options command rest
  | option {options options' outer : Options} {arg : Argument} {args rest : List Argument}
      {command : Command} (hadd : options.Adds none arg options')
      (h : ReadsCommand options' args outer command rest) :
      ReadsCommand options (arg :: args) outer command rest

/-- The arguments are options and the statements for a command. -/
inductive ReadsRest (command : Command) : Options → List Argument → Options → List String → Prop
  | nil {options : Options} : ReadsRest command options [] options []
  | separator {options inner : Options} {args : List Argument} {queries : List String}
      (h : ReadsRest command options args inner queries) :
      ReadsRest command options (.separator :: args) inner queries
  | option {options options' inner : Options} {arg : Argument} {args : List Argument}
      {queries : List String} (hadd : options.Adds (some command) arg options')
      (h : ReadsRest command options' args inner queries) :
      ReadsRest command options (arg :: args) inner queries
  | query {options inner : Options} {query : String} {args : List Argument}
      {queries : List String} (h : ReadsRest command options args inner queries) :
      ReadsRest command options (.plain query :: args) inner (query :: queries)

variable {command : Command} {options outer inner : Options} {args rest : List Argument}
  {queries : List String}

theorem readCommand_eq_ok_iff :
    readCommand options args = .ok (outer, command, rest) ↔
      ReadsCommand options args outer command rest := by
  constructor
  · intro h
    induction args generalizing options with
    | nil => cases h
    | cons arg args ih =>
      cases arg with
      | separator => cases h
      | flag word =>
        obtain ⟨options', hadd, hrest⟩ := exists_of_bind_eq_ok h
        exact .option (.flag hadd) (ih hrest)
      | setting word value =>
        obtain ⟨options', hadd, hrest⟩ := exists_of_bind_eq_ok h
        exact .option (.setting hadd) (ih hrest)
      | plain word =>
        rw [readCommand] at h
        split at h
        · cases h
        · rename_i hword
          obtain ⟨rfl, hrest⟩ := Prod.mk.inj (Except.ok.inj h)
          obtain ⟨rfl, rfl⟩ := Prod.mk.inj hrest
          exact .command hword
  · intro h
    induction h with
    | command hword => rw [readCommand, hword]
    | option hadd _ ih =>
      cases hadd with
      | flag hadd =>
        rw [readCommand, hadd]
        exact ih
      | setting hadd =>
        rw [readCommand, hadd]
        exact ih

/-- There is room for some statements if there is room for the first, and then for the others. -/
theorem room_succ_iff (command : Command) (taken : Bool) (n : Nat) :
    (command = .check ∨ taken.toNat + (n + 1) ≤ 1) ↔
      (taken && command != .check) = false ∧ (command = .check ∨ true.toNat + n ≤ 1) := by
  by_cases hcheck : command = .check
  · simp [hcheck]
  · have htaken : (taken && command != .check) = taken := by simp [hcheck]
    rw [htaken, or_iff_right hcheck, or_iff_right hcheck]
    cases taken with
    | false =>
      simp only [Bool.toNat_false, Bool.toNat_true, true_and]
      omega
    | true =>
      simp only [Bool.toNat_true, Bool.true_eq_false, false_and, iff_false]
      omega

/-- All commands but a check take one statement at most, and none if one is taken already. -/
theorem readRest_eq_ok_iff {taken : Bool} :
    readRest command taken options args = .ok (inner, queries) ↔
      ReadsRest command options args inner queries ∧
        (command = .check ∨ taken.toNat + queries.length ≤ 1) := by
  constructor
  · intro h
    induction args generalizing taken options inner queries with
    | nil =>
      obtain ⟨rfl, rfl⟩ := Prod.mk.inj (Except.ok.inj h)
      exact ⟨.nil, Or.inr (by cases taken <;> decide)⟩
    | cons arg args ih =>
      cases arg with
      | separator =>
        obtain ⟨hrest, hcount⟩ := ih h
        exact ⟨.separator hrest, hcount⟩
      | flag word =>
        obtain ⟨options', hadd, h⟩ := exists_of_bind_eq_ok h
        obtain ⟨hrest, hcount⟩ := ih h
        exact ⟨.option (.flag hadd) hrest, hcount⟩
      | setting word value =>
        obtain ⟨options', hadd, h⟩ := exists_of_bind_eq_ok h
        obtain ⟨hrest, hcount⟩ := ih h
        exact ⟨.option (.setting hadd) hrest, hcount⟩
      | plain query =>
        rw [readRest] at h
        split at h
        · cases h
        · rename_i hroom
          obtain ⟨⟨inner', queries'⟩, h', h⟩ := exists_of_bind_eq_ok h
          obtain ⟨rfl, rfl⟩ := Prod.mk.inj (Except.ok.inj h)
          obtain ⟨hrest, hcount⟩ := ih h'
          exact ⟨.query hrest, (room_succ_iff _ _ _).2 ⟨by simpa using hroom, hcount⟩⟩
  · rintro ⟨h, hcount⟩
    induction h generalizing taken with
    | nil => rfl
    | separator _ ih => exact ih hcount
    | option hadd _ ih =>
      cases hadd with
      | flag hadd =>
        rw [readRest, hadd]
        exact ih hcount
      | setting hadd =>
        rw [readRest, hadd]
        exact ih hcount
    | query _ ih =>
      obtain ⟨hroom, hcount'⟩ := (room_succ_iff _ _ _).1 hcount
      rw [readRest, hroom, ih hcount']
      rfl

/-! ## Before the command -/

theorem ReadsCommand.isComplete (h : ReadsCommand options args outer command rest)
    (hrest : ∀ arg ∈ rest, arg.IsComplete) : ∀ arg ∈ args, arg.IsComplete := by
  induction h with
  | command _ => exact List.forall_mem_cons.2 ⟨trivial, hrest⟩
  | option hadd _ ih => exact List.forall_mem_cons.2 ⟨hadd.isComplete, ih hrest⟩

theorem ReadsCommand.append (h : ReadsCommand options args outer command rest)
    (more : List Argument) : ReadsCommand options (args ++ more) outer command (rest ++ more) := by
  induction h with
  | command hword => exact .command hword
  | option hadd _ ih => exact .option hadd ih

/-- The command may be exchanged for another one: the options before it are the same, and what
stands behind it is left for that one. -/
theorem ReadsCommand.exchange {front back : List Argument} {word : String}
    (h : ReadsCommand options (front ++ .plain word :: back) outer command rest)
    (hword : .plain word ∉ rest) :
    Command.ofWord? word = some command ∧ rest = back ∧
      ∀ word' command' back', Command.ofWord? word' = some command' →
        ReadsCommand options (front ++ .plain word' :: back') outer command' back' := by
  induction front generalizing options with
  | nil =>
    cases h with
    | command hcommand => exact ⟨hcommand, rfl, fun word' command' back' => .command⟩
    | option hadd _ => cases hadd
  | cons arg front ih =>
    cases h with
    | command _ => exact absurd (by simp) hword
    | option hadd hrest =>
      obtain ⟨hcommand, hback, hothers⟩ := ih hrest
      refine ⟨hcommand, hback, fun word' command' back' hword' => ?_⟩
      exact .option hadd (hothers word' command' back' hword')

/-! ## Behind the command -/

theorem ReadsRest.isComplete (h : ReadsRest command options args inner queries) :
    ∀ arg ∈ args, arg.IsComplete := by
  induction h with
  | nil => simp
  | separator _ ih => exact List.forall_mem_cons.2 ⟨trivial, ih⟩
  | option hadd _ ih => exact List.forall_mem_cons.2 ⟨hadd.isComplete, ih⟩
  | query _ ih => exact List.forall_mem_cons.2 ⟨trivial, ih⟩

/-- The plain arguments are the statements. -/
theorem ReadsRest.mem_iff (h : ReadsRest command options args inner queries) {query : String} :
    query ∈ queries ↔ .plain query ∈ args := by
  induction h with
  | nil => simp
  | separator _ ih => simpa using ih
  | option hadd _ ih => cases hadd <;> simpa using ih
  | query _ ih => simp [ih]

/-- All arguments behind a separator are statements. -/
theorem readsRest_plain (command : Command) (options : Options) (queries : List String) :
    ReadsRest command options (queries.map .plain) options queries := by
  induction queries with
  | nil => exact .nil
  | cons query queries ih => exact .query ih

theorem ReadsRest.append (h : ReadsRest command options args inner queries)
    (more : List String) :
    ReadsRest command options (args ++ .separator :: more.map .plain) inner (queries ++ more) := by
  induction h with
  | nil => exact .separator (readsRest_plain command _ more)
  | separator _ ih => exact .separator ih
  | option hadd _ ih => exact .option hadd ih
  | query _ ih => exact .query ih

/-- What stands behind a check can stand behind the other commands, also with `--json` before it. -/
theorem ReadsRest.of_check (h : ReadsRest .check options args inner queries) (command : Command)
    (json : Bool) :
    ReadsRest command { options with json } args { inner with json } queries := by
  induction h with
  | nil => exact .nil
  | separator _ ih => exact .separator ih
  | option hadd _ ih => exact .option (hadd.json (by decide) _ json) ih
  | query _ ih => exact .query ih

end Invocation

end SelectLang

import SelectLang.Dialect

/-!
# Command-line arguments

The arguments name one of three commands, which may have options before and after its name, and the
statements that it is about.  After `--` every argument is a statement.  An option may be given once
on each side of the command; of two quote styles the one after the command counts.

A semicolon can also be required through the environment.  Its value has to be one of a dozen words
for yes and no, and is looked at on each side of the command where the option is not given.

Instead of a command the arguments can ask for information: for help on either side of the command,
for the version before it, and for help in place of it.  They are read from left to right, and the
first of them that asks for information or is wrong settles what becomes of all.
-/

namespace SelectLang

/-- Why no command comes of the arguments: something is wrong with them, or they ask for information
instead. -/
inductive Dismissal where
  | missingCommand
  | unknownCommand
  | unknownOption
  | repeatedOption
  | missingValue
  | unknownValue
  | surplusQuery
  | information
  deriving DecidableEq, Repr

/-! ## Single arguments -/

/-- An argument by its form. -/
inductive Argument where
  /-- A dash and letters, or two dashes and a word. -/
  | flag (word : String)
  /-- Two dashes and a word, with a value. -/
  | setting (word value : String)
  /-- The two dashes after which all arguments are plain. -/
  | separator
  /-- Any other text, a lone dash included. -/
  | plain (text : String)
  deriving DecidableEq, Repr

/-- The form of one argument, by the dashes that it begins with. -/
def Argument.ofString (arg : String) : Argument :=
  match arg.toList with
  | ['-', '-'] => .separator
  | '-' :: '-' :: word =>
      match word.dropWhile (· != '=') with
      | [] => .flag arg
      | _ :: value =>
          .setting ("--" ++ String.ofList (word.takeWhile (· != '='))) (String.ofList value)
  | '-' :: _ :: _ => .flag arg
  | _ => .plain arg

/-- The forms of all arguments; `--quotes` takes the argument after it as its value. -/
def Argument.ofStrings : List String → List Argument
  | [] => []
  | "--quotes" :: value :: rest => .setting "--quotes" value :: ofStrings rest
  | arg :: rest =>
      match Argument.ofString arg with
      | .separator => .separator :: rest.map .plain
      | form => form :: ofStrings rest

/-! ## Commands -/

/-- What can be done with statements. -/
inductive Command where
  /-- Tell of each statement whether it is valid. -/
  | check
  /-- List the tokens of a statement. -/
  | tokens
  /-- Draw a statement as an outline, or write it as a document. -/
  | tree
  deriving DecidableEq, Repr

/-- The command that a word names. -/
def Command.ofWord? : String → Option Command
  | "check" => some .check
  | "tokens" => some .tokens
  | "tree" => some .tree
  | _ => none

/-! ## Options -/

/-- The options given on one side of the command. -/
structure Options where
  requireSemicolon : Bool := false
  quotes : Option QuoteStyle := none
  verbose : Bool := false
  json : Bool := false
  deriving DecidableEq, Repr

/-- The quote style that a value of `--quotes` names. -/
def QuoteStyle.ofWord? : String → Option QuoteStyle
  | "single" => some .single
  | "double" => some .double
  | "both" => some .both
  | _ => none

namespace Options

/-- Asks to be told more. -/
def addVerbose (options : Options) : Except Dismissal Options :=
  if options.verbose then .error .repeatedOption else .ok { options with verbose := true }

/-- What asking for the version comes to, before the command or behind one. -/
def versionAt (command : Option Command) : Dismissal :=
  if command = none then .information else .unknownOption

/-- Adds the option that a single letter stands for.  Several of them can share a dash. -/
def addLetter (command : Option Command) (options : Options) : Char → Except Dismissal Options
  | 'v' => options.addVerbose
  | 'h' => .error .information
  | 'V' => .error (versionAt command)
  | _ => .error .unknownOption

/-- Adds an option without a value, which stands before the command or behind one. -/
def addFlag (command : Option Command) (options : Options) (word : String) :
    Except Dismissal Options :=
  match word with
  | "--require-semicolon" =>
      if options.requireSemicolon then .error .repeatedOption
      else .ok { options with requireSemicolon := true }
  | "--verbose" => options.addVerbose
  | "--json" =>
      if command ≠ some .tree then .error .unknownOption
      else if options.json then .error .repeatedOption
      else .ok { options with json := true }
  | "--quotes" => .error .missingValue
  | "--help" => .error .information
  | "--version" => .error (versionAt command)
  | _ => (word.toList.drop 1).foldlM (addLetter command) options

/-- Adds an option with a value. -/
def addSetting (options : Options) (word value : String) : Except Dismissal Options :=
  match word with
  | "--quotes" =>
      match QuoteStyle.ofWord? value with
      | none => .error .unknownValue
      | some style =>
          if options.quotes.isSome then .error .repeatedOption
          else .ok { options with quotes := some style }
  | _ => .error .unknownOption

end Options

/-! ## Invocations -/

/-- A command with the statements it is about, which the input holds where none are given. -/
inductive Task where
  | check (queries : List String)
  | tokens (query : Option String)
  | tree (query : Option String) (json : Bool)
  deriving DecidableEq, Repr

/-- The task of a command with some statements, of which all commands but one take the first. -/
def Command.task (command : Command) (json : Bool) (queries : List String) : Task :=
  match command with
  | .check => .check queries
  | .tokens => .tokens queries.head?
  | .tree => .tree queries.head? json

/-- What the arguments ask for. -/
structure Invocation where
  task : Task
  dialect : Dialect := {}
  verbose : Bool := false
  deriving DecidableEq, Repr

namespace Invocation

/-- What the word `help` comes to in place of a command: at most one command may stand behind it. -/
def help : List Argument → Dismissal
  | [] => .information
  | [.plain word] =>
      if word = "help" ∨ (Command.ofWord? word).isSome then .information else .unknownCommand
  | _ => .unknownCommand

/-- The options before the command, the command, and the arguments after it. -/
def readCommand (options : Options) :
    List Argument → Except Dismissal (Options × Command × List Argument)
  | [] => .error .missingCommand
  | .separator :: _ => .error .missingCommand
  | .flag word :: rest => do readCommand (← options.addFlag none word) rest
  | .setting word value :: rest => do readCommand (← options.addSetting word value) rest
  | .plain word :: rest =>
      match Command.ofWord? word with
      | none => .error (if word = "help" then help rest else .unknownCommand)
      | some command => .ok (options, command, rest)

/-- The options and the statements after a command.  If one is taken already, only a check takes
more. -/
def readRest (command : Command) (taken : Bool) (options : Options) :
    List Argument → Except Dismissal (Options × List String)
  | [] => .ok (options, [])
  | .separator :: rest => readRest command taken options rest
  | .flag word :: rest => do
      readRest command taken (← options.addFlag (some command) word) rest
  | .setting word value :: rest => do
      readRest command taken (← options.addSetting word value) rest
  | .plain query :: rest =>
      if taken && command != .check then .error .surplusQuery
      else do
        let (options, queries) ← readRest command true options rest
        return (options, query :: queries)

/-- Yes or no, in any case of letters. -/
def switch? (value : String) : Option Bool :=
  let word := String.ofList (value.toList.map Char.toLower)
  if word ∈ ["y", "yes", "t", "true", "on", "1"] then some true
  else if word ∈ ["n", "no", "f", "false", "off", "0"] then some false
  else none

/-- Whether a semicolon is required, by the options on both sides and by the environment. -/
def semicolonRequired (outer inner : Options) : Option String → Except Dismissal Bool
  | none => .ok (outer.requireSemicolon || inner.requireSemicolon)
  | some value =>
      if outer.requireSemicolon && inner.requireSemicolon then .ok true
      else
        match switch? value with
        | none => .error .unknownValue
        | some required => .ok (outer.requireSemicolon || inner.requireSemicolon || required)

/-- Reads the arguments, given the value that the environment has for requiring a semicolon. -/
def parse (environment : Option String) (args : List String) : Except Dismissal Invocation := do
  let (outer, command, rest) ← readCommand {} (Argument.ofStrings args)
  let (inner, queries) ← readRest command false {} rest
  let terminatorRequired ← semicolonRequired outer inner environment
  return {
    task := command.task inner.json queries
    dialect := { terminatorRequired, quotes := (inner.quotes <|> outer.quotes).getD .both }
    verbose := outer.verbose || inner.verbose }

end Invocation

end SelectLang

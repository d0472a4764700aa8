import SelectLang.CommandLine.Arguments
import SelectLang.Query.Document
import SelectLang.Query.Outline
import SelectLang.Statement.Parse
import SelectLang.Text.Blank

/-!
# Outcomes of commands

What a command prints and the code that it ends with: 0 where every statement passed, 1 where one
failed, 2 where the arguments are wrong.  Statements are read from the standard input only when the
arguments hold none; input that is not UTF-8 fails.

How the arguments are read is a matter of its own: whatever reads them, the program does with the
invocation what `ArgumentReader.respond` says.
-/

namespace SelectLang

/-! ## Reports -/

/-- Valid, or the error and the stage at which it arose. -/
def verdict : Except QueryError Query → String
  | .ok _ => "Valid SQL query!"
  | .error (.lexical e) => "Lexical error: " ++ e.message
  | .error (.syntactic e) => "Syntax error: " ++ e.message

/-- The line of a token in a listing: kind, text as it is, and position. -/
def Token.listingLine (token : Token) : String :=
  token.kind.name ++ " '" ++ token.text ++ "' @" ++ token.position.repr ++ "\n"

/-- The lines of the tokens one after the other. -/
def listing (tokens : List Token) : String := String.join (tokens.map Token.listingLine)

/-- The statements of a batch, one on each line that is not blank. -/
def splitBatch (text : String) : List String := (Text.entries text.toList).map String.ofList

/-! ## Outcomes -/

/-- The text on the standard output, and the exit code. -/
structure Outcome where
  output : String
  code : Nat
  deriving DecidableEq, Repr

namespace Outcome

/-- A line printed without success. -/
def failure (line : String) : Outcome := ⟨line ++ "\n", 1⟩

/-- A missing text fails without a word. -/
def ofText? (answer : String → Outcome) : Option String → Outcome
  | none => ⟨"", 1⟩
  | some text => answer text

/-- A verdict on each statement, on a line of its own. -/
def ofCheck (dialect : Dialect) (queries : List String) : Outcome :=
  let results := queries.map (Query.parse dialect)
  ⟨String.join (results.map (verdict · ++ "\n")), if results.all (·.isOk) then 0 else 1⟩

/-- The tokens of a statement. -/
def ofTokens (dialect : Dialect) (query : String) : Outcome :=
  match tokenize dialect query with
  | .ok tokens => ⟨listing tokens, 0⟩
  | .error e => failure ("Lexical error: " ++ e.message)

/-- A statement, trimmed, as an outline or as a document. -/
def ofTree (dialect : Dialect) (json : Bool) (query : String) : Outcome :=
  match Query.parse dialect (String.ofList (Text.trim query.toList)) with
  | .ok q => ⟨if json then q.toJson.render ++ "\n" else q.draw, 0⟩
  | .error e => failure (verdict (.error e))

end Outcome

namespace Invocation

/-- The statements come from the standard input. -/
def readsInput (invocation : Invocation) : Bool :=
  match invocation.task with
  | .check queries => queries.isEmpty
  | .tokens query => query.isNone
  | .tree query _ => query.isNone

/-- Carries the task out.  Arguments are taken as they are; the input is missing if it is not
UTF-8, and for a check it is a batch. -/
def outcome (invocation : Invocation) (input : Option String) : Outcome :=
  let dialect := invocation.dialect
  match invocation.task with
  | .check [] => .ofText? (fun text => .ofCheck dialect (splitBatch text)) input
  | .check queries => .ofCheck dialect queries
  | .tokens query => .ofText? (.ofTokens dialect) (query <|> input)
  | .tree query json => .ofText? (.ofTree dialect json) (query <|> input)

end Invocation

/-! ## From arguments to outcomes -/

/-- Makes an invocation of the value in the environment and the arguments.  Where none comes of
them, the reader has an outcome of its own. -/
abbrev ArgumentReader := Option String → List String → Except Outcome Invocation

/-- What a program that reads its arguments like this responds to an input. -/
def ArgumentReader.respond (reader : ArgumentReader) (environment : Option String)
    (args : List String) (input : ByteArray) : Outcome :=
  match reader environment args with
  | .error outcome => outcome
  | .ok invocation => invocation.outcome (String.fromUTF8? input)

/-- Nothing but information is a success.  Its text, like the text that tells of wrong arguments, is
left out. -/
def Dismissal.outcome (dismissal : Dismissal) : Outcome :=
  ⟨"", if dismissal = .information then 0 else 2⟩

/-- The reader of the arguments described with `Invocation.parse`. -/
def argumentReader : ArgumentReader := fun environment args =>
  (Invocation.parse environment args).mapError Dismissal.outcome

/-- The whole program: from the environment, the arguments and the input to what is printed. -/
def respond (environment : Option String) (args : List String) (input : ByteArray) : Outcome :=
  argumentReader.respond environment args input

end SelectLang

import SelectLang.CommandLine.Outcome

/-!
# The command

Hands the arguments, the environment and the input over, prints the outcome and ends with its code.
-/

namespace SelectLang

/-- The environment variable that can require a semicolon. -/
def semicolonVariable : String := "SQLSIFT_REQUIRE_SEMICOLON"

/-- Reads the standard input only if the arguments hold no statement. -/
def runCommand (args : List String) : IO UInt32 := do
  let finish (outcome : Outcome) : IO UInt32 := do
    IO.print outcome.output
    return outcome.code.toUInt32
  match argumentReader (← IO.getEnv semicolonVariable) args with
  | .error outcome => finish outcome
  | .ok invocation =>
      let input ← if invocation.readsInput then (← IO.getStdin).readBinToEnd else pure .empty
      finish (invocation.outcome (String.fromUTF8? input))

end SelectLang

def main (args : List String) : IO UInt32 := SelectLang.runCommand args

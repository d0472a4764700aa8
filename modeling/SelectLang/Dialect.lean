/-!
# Dialects

What a reader of statements can choose: the quotes that delimit a string, and whether a statement
has to end with a semicolon.
-/

namespace SelectLang

/-- The quotes that open a string. -/
inductive QuoteStyle where
  | single | double | both
  deriving DecidableEq, Repr

/-- The quote opens a string. -/
def QuoteStyle.accepts : QuoteStyle → Char → Bool
  | .single, c => c == '\''
  | .double, c => c == '"'
  | .both, c => c == '\'' || c == '"'

/-- A choice of rules for reading statements. -/
structure Dialect where
  terminatorRequired : Bool := false
  quotes : QuoteStyle := .both
  deriving DecidableEq, Repr

namespace Dialect

/-- Both quotes, and a semicolon where the writer likes one. -/
def lenient : Dialect := {}

/-- Both quotes, and a semicolon after every statement. -/
def strict : Dialect := { terminatorRequired := true }

end Dialect

end SelectLang

import SelectLang.Statement.Reader
import SelectLang.Token.Stream

/-!
# Statements as text

From the text of a statement to its query: the text is cut into tokens, and the tokens are read.
-/

namespace SelectLang

/-- Why a text is no statement. -/
inductive QueryError where
  /-- It cannot be cut into tokens. -/
  | lexical (e : LexicalError)
  /-- Its tokens do not form a statement. -/
  | syntactic (e : SyntaxError)
  deriving DecidableEq, Repr

namespace QueryError

/-- The error in words, with the stage at which it arose. -/
def message : QueryError → String
  | .lexical e => "lexical error: " ++ e.message
  | .syntactic e => "syntax error: " ++ e.message

/-- The offset of the error in the text. -/
def position : QueryError → Nat
  | .lexical e => e.position
  | .syntactic e => e.position

end QueryError

/-- The query that a text states. -/
def Query.parse (dialect : Dialect) (source : String) : Except QueryError Query :=
  match tokenize dialect source with
  | .error e => .error (.lexical e)
  | .ok tokens => (Query.ofTokens dialect tokens).mapError .syntactic

end SelectLang

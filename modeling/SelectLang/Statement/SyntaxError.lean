import SelectLang.Token.Basic

/-!
# Syntax errors

Why a list of tokens is no statement, and at which token.  The error names what the statement could
have gone on with, and shows the token that stands there instead.
-/

namespace SelectLang

/-- What a statement could have gone on with. -/
inductive Expected where
  /-- A token of one kind. -/
  | kind (k : Kind)
  /-- Any comparator. -/
  | comparator
  /-- A name, a number or a string. -/
  | operand
  /-- Nothing: the statement was complete. -/
  | endOfStatement
  deriving DecidableEq, Repr

/-- The cause of a syntax failure: what was expected, and the kind, text and position of the token
found in its place. -/
structure SyntaxError where
  expected : Expected
  found : Kind
  text : String
  position : Nat
  deriving DecidableEq, Repr

namespace SyntaxError

/-- The error of coming upon a token where something else was expected. -/
def ofToken (token : Token) (expected : Expected) : SyntaxError :=
  ⟨expected, token.kind, token.text, token.position⟩

/-- The error in words. -/
def message (e : SyntaxError) : String :=
  (match e.expected with
    | .kind k => "expected " ++ k.name ++ ", found " ++ e.found.name
    | .comparator => "expected comparison operator, found " ++ e.found.name
    | .operand => "expected IDENTIFIER, NUMBER or STRING, found " ++ e.found.name
    | .endOfStatement => "unexpected " ++ e.found.name ++ " after end of statement")
    ++ " at position " ++ e.position.repr

end SyntaxError

end SelectLang

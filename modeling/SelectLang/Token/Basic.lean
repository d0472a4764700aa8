import SelectLang.Text.Quoted
import SelectLang.Token.Kind
import SelectLang.Token.Span

/-!
# Tokens

A token is a piece of a statement: its kind, the text that it carries and its place in the source.
The text is what matters later on, not always what was written: a keyword carries its spelling in
capitals, and a string its content without the quotes.
-/

namespace SelectLang

/-- A piece of a statement. -/
structure Token where
  kind : Kind
  text : String
  span : Span
  deriving DecidableEq, Repr

namespace Token

/-- The marker of the end of a statement, at an offset. -/
def eof (offset : Nat) : Token := ⟨.eof, "", .emptyAt offset⟩

/-- The offset at which the token begins. -/
def position (token : Token) : Nat := token.span.start

/-- The token marks the end of a statement. -/
def isEof (token : Token) : Bool := token.kind == .eof

/-- The token moved to the right. -/
def shift (offset : Nat) (token : Token) : Token :=
  { token with span := token.span.shift offset }

/-- The token on one line: the name of its kind, and its text quoted. -/
def display (token : Token) : String :=
  token.kind.name ++ "(" ++ String.ofList (Text.quoted token.text.toList) ++ ")"

end Token

end SelectLang

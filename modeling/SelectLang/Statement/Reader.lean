import SelectLang.Dialect
import SelectLang.Statement.Grammar

/-!
# Reading statements from tokens

A reader stands before the tokens that it has not read yet.  The first end marker ends the list for
it: what comes after is never seen, and where no marker is given, one stands at the end of the last
token.  A reader can be asked again after a failure or a success, and goes on from where it stands.

The other way to read statements, with all tokens in view, is `TokenCursor.read`.
-/

namespace SelectLang

/-- The tokens before the end marker that are still to be read, the number of those read, and the
end marker. -/
structure StatementReader where
  ahead : List Token
  cursor : Nat := 0
  ending : Token
  terminatorRequired : Bool
  deriving DecidableEq, Repr

namespace StatementReader

/-- The end marker of a list of tokens: the first one in it, or else one at the end of its last
token. -/
def endingOf (tokens : List Token) : Token :=
  (tokens.find? Token.isEof).getD (.eof ((tokens.getLast?.map (·.span.stop)).getD 0))

/-- A reader before the first token. -/
def ofTokens (dialect : Dialect) (tokens : List Token) : StatementReader where
  ahead := tokens.takeWhile (!·.isEof)
  ending := endingOf tokens
  terminatorRequired := dialect.terminatorRequired

/-- The next token, which is the end marker once all others are read. -/
def current (reader : StatementReader) : Token := reader.ahead.head?.getD reader.ending

/-- All tokens before the end marker are read. -/
def atEnd (reader : StatementReader) : Bool := reader.ahead.isEmpty

/-- Reads tokens with a production; a failure is an error at the token that the reader stops at. -/
def advance {α : Type} (reader : StatementReader) (p : Production α) :
    Except SyntaxError α × StatementReader :=
  let outcome := p.run reader.ahead
  let stopped :=
    { reader with
      ahead := outcome.2
      cursor := reader.cursor + (reader.ahead.length - outcome.2.length) }
  (outcome.1.mapError (.ofToken stopped.current), stopped)

/-- Reads a statement that takes up all tokens. -/
def read (reader : StatementReader) : Except SyntaxError Query × StatementReader :=
  reader.advance (.statement reader.terminatorRequired)

end StatementReader

/-- The query that a list of tokens states. -/
def Query.ofTokens (dialect : Dialect) (tokens : List Token) : Except SyntaxError Query :=
  (StatementReader.ofTokens dialect tokens).read.1

end SelectLang

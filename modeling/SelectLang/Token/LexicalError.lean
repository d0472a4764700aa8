/-!
# Lexical errors

Why a text cannot be cut into tokens, and where.
-/

namespace SelectLang

/-- The cause of a lexical failure, with the offset of the offending text. -/
inductive LexicalError where
  /-- A character that begins no lexeme. -/
  | unexpectedCharacter (c : Char) (position : Nat)
  /-- A string whose closing quote is missing. -/
  | unterminatedString (quote : Char) (position : Nat)
  deriving DecidableEq, Repr

namespace LexicalError

/-- The offset of the offending text. -/
def position : LexicalError → Nat
  | .unexpectedCharacter _ position => position
  | .unterminatedString _ position => position

/-- The error in words. -/
def message : LexicalError → String
  | .unexpectedCharacter c position =>
      "unexpected character '" ++ c.toString ++ "' at position " ++ position.repr
  | .unterminatedString _ position =>
      "unterminated string literal starting at position " ++ position.repr

end LexicalError

end SelectLang

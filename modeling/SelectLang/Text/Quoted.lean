import SelectLang.Text.Extender
import SelectLang.Text.Printable

/-!
# Quoted texts

A text between double quotes on one line.  Six characters have an escape of two characters; a
character that attaches to its neighbour, or that cannot be shown, is written as its number in base
sixteen, and every other character stands for itself.
-/

namespace SelectLang.Text

/-- The letter that stands for a character after a backslash. -/
def shortEscape? : Char → Option Char
  | '\x00' => some '0'
  | '\t' => some 't'
  | '\r' => some 'r'
  | '\n' => some 'n'
  | '\\' => some '\\'
  | '"' => some '"'
  | _ => none

/-- The written form of one character inside a quoted text. -/
def escape (c : Char) : List Char :=
  match shortEscape? c with
  | some letter => ['\\', letter]
  | none =>
      if isExtender c || !isPrintable c then
        ['\\', 'u', '{'] ++ Nat.toDigits 16 c.toNat ++ ['}']
      else [c]

/-- The text between double quotes. -/
def quoted (cs : List Char) : List Char := '"' :: cs.flatMap escape ++ ['"']

end SelectLang.Text

import SelectLang.Token.Comparator
import SelectLang.Token.Keyword

/-!
# Kinds of token

What a piece of a statement is, apart from its text.  The parser decides on kinds alone, and a
diagnostic calls each kind by a name of its own (`name_injective`).
-/

namespace SelectLang

/-- The kind of a token. -/
inductive Kind where
  | keyword (k : Keyword)
  | identifier
  | number
  | string
  | comma
  | semicolon
  | star
  | comparator (op : Comparator)
  /-- The end of the statement. -/
  | eof
  deriving DecidableEq, Repr

namespace Kind

/-- What a diagnostic calls the kind. -/
def name : Kind → String
  | .keyword k => k.spelling
  | .identifier => "IDENTIFIER"
  | .number => "NUMBER"
  | .string => "STRING"
  | .comma => "COMMA"
  | .semicolon => "SEMICOLON"
  | .star => "ASTERISK"
  | .comparator op => op.name
  | .eof => "EOF"

/-- The comparator that the kind stands for. -/
def comparator? : Kind → Option Comparator
  | .comparator op => some op
  | _ => none

/-- The keyword that the kind stands for. -/
def keyword? : Kind → Option Keyword
  | .keyword k => some k
  | _ => none

theorem name_injective {a b : Kind} (h : a.name = b.name) : a = b := by
  revert h
  rcases a with (_ | _) | _ | _ | _ | _ | _ | _ | (_ | _) | _ <;>
    rcases b with (_ | _) | _ | _ | _ | _ | _ | _ | (_ | _) | _ <;> decide

/-- A name is a word in capitals. -/
theorem isUpper_of_mem_name {kind : Kind} {c : Char} (h : c ∈ kind.name.toList) :
    c.isUpper = true := by
  have hall : kind.name.toList.all Char.isUpper = true := by
    rcases kind with (_ | _) | _ | _ | _ | _ | _ | _ | (_ | _) | _ <;> decide
  exact List.all_eq_true.1 hall c h

end Kind

end SelectLang

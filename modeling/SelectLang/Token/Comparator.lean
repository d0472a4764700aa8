/-!
# Comparators

The six relations that a comparison can state.
-/

namespace SelectLang

/-- A relation between a column and an operand. -/
inductive Comparator where
  | eq | ne | lt | le | gt | ge
  deriving DecidableEq, Repr

namespace Comparator

/-- How the comparator is written in a statement; "not equal" is read in a second form too. -/
def symbol : Comparator → String
  | .eq => "="
  | .ne => "<>"
  | .lt => "<"
  | .le => "<="
  | .gt => ">"
  | .ge => ">="

/-- What a diagnostic calls the comparator. -/
def name : Comparator → String
  | .eq => "EQ"
  | .ne => "NE"
  | .lt => "LT"
  | .le => "LE"
  | .gt => "GT"
  | .ge => "GE"

end Comparator

end SelectLang

import SelectLang.Query.Condition

/-!
# Queries

What a SELECT statement asks for, clause by clause.  A query built by hand may lack what a statement
cannot: it may name no column or no table, or restrict groups without forming any.
-/

namespace SelectLang

/-- The columns that a query asks for. -/
inductive Projection where
  | all
  | columns (names : List String)
  deriving DecidableEq, Repr

namespace Projection

/-- The columns that are named, unless all are asked for. -/
def names? : Projection → Option (List String)
  | .all => none
  | .columns names => some names

end Projection

/-- Which end of an ordering comes first. -/
inductive Direction where
  | asc | desc
  deriving DecidableEq, Repr, Inhabited

namespace Direction

/-- The keyword that writes the direction. -/
def keyword : Direction → Keyword
  | .asc => .asc
  | .desc => .desc

end Direction

/-- A column to order by. -/
structure SortKey where
  column : String
  direction : Direction := .asc
  deriving DecidableEq, Repr

/-- A SELECT statement, clause by clause. -/
structure Query where
  columns : Projection
  tables : List String
  filter : Option Condition := none
  grouping : List String := []
  having : Option Condition := none
  ordering : List SortKey := []
  /-- The statement ends with a semicolon. -/
  terminated : Bool := false
  deriving DecidableEq, Repr

end SelectLang

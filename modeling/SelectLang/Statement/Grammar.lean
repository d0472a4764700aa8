import SelectLang.Query.Basic
import SelectLang.Statement.Production

/-!
# The grammar of statements

One production for each part of a statement:

* a statement is SELECT, a projection, FROM and table names; then, each if its keyword announces it,
  a condition on rows, groups with a condition on them, and an ordering; and a semicolon, which some
  dialects require;
* a condition is conjunctions joined by OR, and a conjunction is comparisons joined by AND, both
  grouped from the left;
* a sort key is a column with a direction, ascending where none is written.
-/

namespace SelectLang

namespace Production

/-- A name. -/
def name : Production String :=
  take (.kind .identifier) fun token =>
    if token.kind = .identifier then some token.text else none

/-- Names with commas between them. -/
def names : Production (List String) := do
  let (first, others) ← chain .comma name
  return first :: others

/-- The columns that are asked for. -/
def projection : Production Projection := do
  if ← accept .star then
    return .all
  else
    return .columns (← names)

/-! ## Conditions -/

/-- A comparator. -/
def comparator : Production Comparator := take .comparator fun token => token.kind.comparator?

/-- What a token can stand for on the right of a comparator. -/
def operandOf? (token : Token) : Option Operand :=
  match token.kind with
  | .identifier => some (.column token.text)
  | .number => some (.number token.text)
  | .string => some (.string token.text)
  | _ => none

/-- An operand. -/
def operand : Production Operand := take .operand operandOf?

/-- A comparison. -/
def comparison : Production Comparison := do
  let column ← name
  let op ← comparator
  let operand ← operand
  return ⟨column, op, operand⟩

/-- Comparisons joined by AND. -/
def conjunction : Production Condition := do
  let (first, others) ← chain (.keyword .and) comparison
  return .chain .and (.leaf first) (others.map .leaf)

/-- Conjunctions joined by OR. -/
def condition : Production Condition := do
  let (first, others) ← chain (.keyword .or) conjunction
  return .chain .or first others

/-! ## Clauses -/

/-- A direction, ascending if none is written. -/
def direction : Production Direction := do
  if ← accept (.keyword .desc) then
    return .desc
  else
    let _ ← accept (.keyword .asc)
    return .asc

/-- A sort key. -/
def sortKey : Production SortKey := do
  let column ← name
  let direction ← direction
  return ⟨column, direction⟩

/-- What follows GROUP: the columns to group by, and a condition on the groups if one is
announced. -/
def groups : Production (List String × Option Condition) := do
  expect (.keyword .by)
  let columns ← names
  let having ← announced (.keyword .having) condition
  return (columns, having)

/-- What follows ORDER: the sort keys. -/
def ordering : Production (List SortKey) := do
  expect (.keyword .by)
  let (first, others) ← chain .comma sortKey
  return first :: others

/-- A semicolon, and whether there was one; some dialects cannot do without. -/
def terminator (required : Bool) : Production Bool := do
  if required then
    expect .semicolon
    return true
  else
    accept .semicolon

/-- The clauses of a statement, with its terminator. -/
def clauses (terminatorRequired : Bool) : Production Query := do
  expect (.keyword .select)
  let columns ← projection
  expect (.keyword .from)
  let tables ← names
  let filter ← announced (.keyword .where) condition
  let grouped ← announced (.keyword .group) groups
  let ordering ← announced (.keyword .order) ordering
  let terminated ← terminator terminatorRequired
  let (grouping, having) := grouped.getD ([], none)
  return { columns, tables, filter, grouping, having, ordering := ordering.getD [], terminated }

/-- A whole statement, after which no token may be left. -/
def statement (terminatorRequired : Bool) : Production Query := do
  let query ← clauses terminatorRequired
  finish
  return query

end Production

end SelectLang

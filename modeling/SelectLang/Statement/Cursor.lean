import SelectLang.Statement.Grammar

/-!
# Reading statements at a cursor

Statements are read here in another way than by productions.  All tokens stay in view, a cursor
stands at one of them and moves over them one at a time, and every test looks at the token that it
stands at.  Past the last token it sees an end marker, and past an end marker it never moves, so that
what comes behind one is in view but never read.

Lists are collected and conditions are joined while they are read.  A loop of this kind goes round
at most once for each token (`Reading.extend`), which is enough because each round reads one.
-/

namespace SelectLang

/-! ## Cursors -/

/-- A place in a list of tokens. -/
structure TokenCursor where
  tokens : List Token
  position : Nat := 0
  deriving DecidableEq, Repr

namespace TokenCursor

/-- Stands in for the end marker if there is none. -/
def ending (cursor : TokenCursor) : Token :=
  .eof ((cursor.tokens.getLast?.map (·.span.stop)).getD 0)

/-- The token at the cursor. -/
def current (cursor : TokenCursor) : Token :=
  cursor.tokens[cursor.position]?.getD cursor.ending

/-- All tokens before the end marker are read. -/
def atEnd (cursor : TokenCursor) : Bool := cursor.current.isEof

/-- The cursor one token further on, but never past an end marker. -/
def advance (cursor : TokenCursor) : TokenCursor :=
  if cursor.atEnd then cursor else { cursor with position := cursor.position + 1 }

end TokenCursor

/-- Reads something at a cursor and moves it.  After an error it stays where the error was found. -/
abbrev Reading := EStateM SyntaxError TokenCursor

namespace Reading

variable {α β : Type}

/-! ## Single tokens -/

/-- Something else was expected where the cursor stands. -/
def refuse (expected : Expected) : Reading α := do
  throw (.ofToken (← get).current expected)

/-- Reads a token of the kind if the cursor stands at one, and tells whether it did. -/
def eat (kind : Kind) : Reading Bool := do
  if (← get).current.kind = kind then
    modify TokenCursor.advance
    return true
  else
    return false

/-- Reads a token of the kind. -/
def expect (kind : Kind) : Reading Unit := do
  if ← eat kind then
    return ()
  else
    refuse (.kind kind)

/-- Reads the token at the cursor if it shows what is looked for. -/
def take (expected : Expected) (view : Token → Option α) : Reading α := do
  match view (← get).current with
  | some a =>
      modify TokenCursor.advance
      return a
  | none => refuse expected

/-- Nothing may be left before the end marker. -/
def finish : Reading Unit := do
  if (← get).atEnd then
    return ()
  else
    refuse .endOfStatement

theorem run_eat (kind : Kind) (cursor : TokenCursor) :
    (eat kind).run cursor =
      if cursor.current.kind = kind then .ok true cursor.advance else .ok false cursor := by
  show (if cursor.current.kind = kind then (do modify TokenCursor.advance; return true)
    else return false : Reading Bool) cursor = _
  split <;> rfl

theorem run_expect (kind : Kind) (cursor : TokenCursor) :
    (expect kind).run cursor =
      if cursor.current.kind = kind then .ok () cursor.advance
      else .error (.ofToken cursor.current (.kind kind)) cursor := by
  rw [expect, EStateM.run_bind, run_eat]
  by_cases h : cursor.current.kind = kind
  · rw [if_pos h, if_pos h]
    rfl
  · rw [if_neg h, if_neg h]
    rfl

theorem run_take (expected : Expected) (view : Token → Option α) (cursor : TokenCursor) :
    (take expected view).run cursor =
      match view cursor.current with
      | some a => .ok a cursor.advance
      | none => .error (.ofToken cursor.current expected) cursor := by
  rw [take, EStateM.run_bind, EStateM.run_get]
  dsimp only
  split <;> rfl

theorem run_finish (cursor : TokenCursor) :
    finish.run cursor =
      if cursor.atEnd then .ok () cursor
      else .error (.ofToken cursor.current .endOfStatement) cursor := by
  show (if cursor.atEnd then return () else refuse .endOfStatement : Reading Unit) cursor = _
  split <;> rfl

/-! ## Loops -/

/-- As long as a separator comes next, reads one more part and adds it to what there is; at most so
many times. -/
def extendUpTo (separator : Kind) (part : Reading β) (add : α → β → α) : Nat → α → Reading α
  | 0, a => return a
  | rounds + 1, a => do
      if ← eat separator then
        extendUpTo separator part add rounds (add a (← part))
      else
        return a

/-- As long as a separator comes next, reads one more part and adds it to what there is. -/
def extend (separator : Kind) (part : Reading β) (add : α → β → α) (a : α) : Reading α := do
  extendUpTo separator part add (← get).tokens.length a

/-! ## Names and conditions -/

/-- A name. -/
def name : Reading String :=
  take (.kind .identifier) fun token =>
    if token.kind = .identifier then some token.text else none

/-- Names with commas between them. -/
def names : Reading (List String) := do
  extend .comma name (fun names name => names ++ [name]) [← name]

/-- The columns that are asked for. -/
def projection : Reading Projection := do
  if ← eat .star then
    return .all
  else
    return .columns (← names)

/-- A comparator. -/
def comparator : Reading Comparator := take .comparator fun token => token.kind.comparator?

/-- An operand. -/
def operand : Reading Operand := take .operand Production.operandOf?

/-- A comparison. -/
def comparison : Reading Comparison := do
  let column ← name
  let op ← comparator
  let operand ← operand
  return ⟨column, op, operand⟩

/-- Comparisons joined by AND, each to all before it. -/
def conjunction : Reading Condition := do
  let first ← comparison
  extend (.keyword .and) comparison (fun left right => .node left .and (.leaf right)) (.leaf first)

/-- Conjunctions joined by OR, each to all before it. -/
def condition : Reading Condition := do
  extend (.keyword .or) conjunction (fun left right => .node left .or right) (← conjunction)

/-! ## Clauses -/

/-- A condition, if the keyword comes before one. -/
def restriction (keyword : Keyword) : Reading (Option Condition) := do
  if ← eat (.keyword keyword) then
    return some (← condition)
  else
    return none

/-- Columns to group by and a condition on the groups, which has no place without them. -/
def grouping : Reading (List String × Option Condition) := do
  if ← eat (.keyword .group) then
    expect (.keyword .by)
    let columns ← names
    let having ← restriction .having
    return (columns, having)
  else
    return ([], none)

/-- A direction, ascending if none is written. -/
def direction : Reading Direction := do
  if ← eat (.keyword .desc) then
    return .desc
  else
    let _ ← eat (.keyword .asc)
    return .asc

/-- A sort key. -/
def sortKey : Reading SortKey := do
  let column ← name
  let direction ← direction
  return ⟨column, direction⟩

/-- The sort keys, if there are any. -/
def ordering : Reading (List SortKey) := do
  if ← eat (.keyword .order) then
    expect (.keyword .by)
    extend .comma sortKey (fun keys key => keys ++ [key]) [← sortKey]
  else
    return []

/-- A semicolon, and whether there was one. -/
def terminator (required : Bool) : Reading Bool := do
  if required then
    expect .semicolon
    return true
  else
    eat .semicolon

/-- The clauses of a statement, with its terminator. -/
def clauses (terminatorRequired : Bool) : Reading Query := do
  expect (.keyword .select)
  let columns ← projection
  expect (.keyword .from)
  let tables ← names
  let filter ← restriction .where
  let (grouping, having) ← grouping
  let ordering ← ordering
  let terminated ← terminator terminatorRequired
  return { columns, tables, filter, grouping, having, ordering, terminated }

/-- A whole statement, after which no token may be left. -/
def statement (terminatorRequired : Bool) : Reading Query := do
  let query ← clauses terminatorRequired
  finish
  return query

end Reading

/-- Reads a statement from the cursor on.  It can be asked again after a failure or a success, and
goes on from where it was left. -/
def TokenCursor.read (cursor : TokenCursor) (terminatorRequired : Bool) :
    Except SyntaxError Query × TokenCursor :=
  match (Reading.statement terminatorRequired).run cursor with
  | .ok query cursor => (.ok query, cursor)
  | .error e cursor => (.error e, cursor)

end SelectLang

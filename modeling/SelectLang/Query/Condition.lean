import SelectLang.Token.Comparator
import SelectLang.Token.Keyword

/-!
# Conditions

A condition is a tree of comparisons joined by AND and OR.  It is written without parentheses, so
only its comparisons and connectives, from left to right, can be read off the text; which trees come
back from their text is a matter of how a reader groups them.
-/

namespace SelectLang

/-! ## Operands -/

/-- What a column is compared with. -/
inductive Operand where
  | column (name : String)
  | number (text : String)
  | string (content : String)
  deriving DecidableEq, Repr

namespace Operand

/-- The name, the number as written, or the content of the string. -/
def text : Operand → String
  | .column name => name
  | .number text => text
  | .string content => content

/-- The quote that a string is written with: a single quote, unless the content holds a single quote
and no double quote. -/
def quoteFor (content : String) : Char :=
  if '\'' ∈ content.toList ∧ '"' ∉ content.toList then '"' else '\''

/-- The operand as it stands in a statement. -/
def render : Operand → String
  | .column name => name
  | .number text => text
  | .string content =>
      let quote := (quoteFor content).toString
      quote ++ content ++ quote

/-- The chosen quote occurs in the content exactly when neither quote would do. -/
theorem quoteFor_mem_iff (content : String) :
    quoteFor content ∈ content.toList ↔ '\'' ∈ content.toList ∧ '"' ∈ content.toList := by
  unfold quoteFor
  split
  · rename_i h
    exact ⟨fun hd => absurd hd h.2, fun hd => absurd hd.2 h.2⟩
  · rename_i h
    refine ⟨fun hs => ⟨hs, ?_⟩, fun hs => hs.1⟩
    exact Classical.byContradiction fun hd => h ⟨hs, hd⟩

end Operand

/-! ## Comparisons -/

/-- A column, a relation and what the column is compared with. -/
structure Comparison where
  column : String
  op : Comparator
  operand : Operand
  deriving DecidableEq, Repr

/-- The comparison as it stands in a statement. -/
def Comparison.render (c : Comparison) : String :=
  c.column ++ " " ++ c.op.symbol ++ " " ++ c.operand.render

/-! ## Connectives -/

/-- What joins two conditions. -/
inductive Connective where
  | and | or
  deriving DecidableEq, Repr

namespace Connective

/-- The keyword that writes the connective. -/
def keyword : Connective → Keyword
  | .and => .and
  | .or => .or

/-- The connective as it stands in a statement. -/
def render (op : Connective) : String := op.keyword.spelling

end Connective

/-! ## Trees -/

/-- A tree of comparisons. -/
inductive Condition where
  | leaf (c : Comparison)
  | node (left : Condition) (op : Connective) (right : Condition)
  deriving DecidableEq, Repr

namespace Condition

/-- Conditions joined by one connective, the first two first. -/
def chain (op : Connective) (first : Condition) (others : List Condition) : Condition :=
  others.foldl (fun left right => .node left op right) first

/-- The comparisons, from left to right. -/
def comparisons : Condition → List Comparison
  | .leaf c => [c]
  | .node left _ right => left.comparisons ++ right.comparisons

/-- The number of nodes on the longest way from the root to a comparison, both ends counted. -/
def depth : Condition → Nat
  | .leaf _ => 1
  | .node left _ right => 1 + max left.depth right.depth

/-- The condition as it stands in a statement. -/
def render : Condition → String
  | .leaf c => c.render
  | .node left op right => left.render ++ " " ++ op.render ++ " " ++ right.render

end Condition

end SelectLang

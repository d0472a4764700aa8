import SelectLang.Proofs.Query.Grouping
import SelectLang.Token.Basic

/-!
# Derivations

The grammar of statements, as trees with tokens at their leaves.  A tree is one way to derive the
tokens that it is written with, and stands for a part of a query:

* a statement is SELECT, a projection, FROM, names, then optionally WHERE with a condition,
  GROUP BY with names and HAVING with a condition, ORDER BY with sort keys, and a semicolon;
* a projection is `*` or names, and names have commas between them;
* a condition is conjunctions joined by OR, a conjunction is comparisons joined by AND, and a
  comparison is a name, a comparator and an operand;
* a sort key is a name and a direction, which need not be written.

Nothing here refers to how a list of tokens is read.
-/

namespace SelectLang

/-- Trees of a part of the grammar, each written with a list of tokens. -/
class Phrase (τ : Type) where
  tokens : τ → List Token

open Phrase (tokens)

variable {τ σ : Type}

/-! ## Sequences, options and repetitions -/

/-- A token of a kind. -/
abbrev Leaf (kind : Kind) := { token : Token // token.kind = kind }

instance (kind : Kind) : Phrase (Leaf kind) := ⟨fun leaf => [leaf.val]⟩

instance [Phrase τ] [Phrase σ] : Phrase (τ × σ) := ⟨fun pair => tokens pair.1 ++ tokens pair.2⟩

instance [Phrase τ] : Phrase (List τ) := ⟨fun parts => parts.flatMap tokens⟩

instance [Phrase τ] : Phrase (Option τ) := ⟨fun part => part.elim [] tokens⟩

/-- One part or more, with a separator between each two. -/
structure Chain (separator : Kind) (τ : Type) where
  first : τ
  others : List (Leaf separator × τ)

instance (separator : Kind) [Phrase τ] : Phrase (Chain separator τ) :=
  ⟨fun chain => tokens chain.first ++ tokens chain.others⟩

/-- The parts of a chain, without the separators. -/
def Chain.parts {separator : Kind} (chain : Chain separator τ) : List τ :=
  chain.first :: chain.others.map (·.2)

@[simp] theorem tokens_leaf {kind : Kind} (leaf : Leaf kind) : tokens leaf = [leaf.val] := rfl

@[simp] theorem tokens_pair [Phrase τ] [Phrase σ] (x : τ) (y : σ) :
    tokens (x, y) = tokens x ++ tokens y := rfl

@[simp] theorem tokens_nil [Phrase τ] : tokens ([] : List τ) = [] := rfl

@[simp] theorem tokens_cons [Phrase τ] (x : τ) (parts : List τ) :
    tokens (x :: parts) = tokens x ++ tokens parts := List.flatMap_cons

@[simp] theorem tokens_none [Phrase τ] : tokens (none : Option τ) = [] := rfl

@[simp] theorem tokens_some [Phrase τ] (x : τ) : tokens (some x) = tokens x := rfl

@[simp] theorem tokens_chain {separator : Kind} [Phrase τ] (chain : Chain separator τ) :
    tokens chain = tokens chain.first ++ tokens chain.others := rfl

/-! ## Names and projections -/

/-- Names as they are written, with commas between them. -/
abbrev WrittenNames := Chain .comma (Leaf .identifier)

/-- The names in the order in which they are written. -/
def WrittenNames.names (written : WrittenNames) : List String :=
  written.parts.map (·.val.text)

/-- A projection as it is written. -/
inductive WrittenProjection where
  | all (star : Leaf .star)
  | columns (names : WrittenNames)

namespace WrittenProjection

instance : Phrase WrittenProjection where
  tokens
    | .all star => tokens star
    | .columns names => tokens names

/-- The projection that is written. -/
def projection : WrittenProjection → Projection
  | .all _ => .all
  | .columns names => .columns names.names

end WrittenProjection

/-! ## Conditions -/

/-- A comparator as it is written. -/
structure WrittenComparator where
  op : Comparator
  leaf : Leaf (.comparator op)

instance : Phrase WrittenComparator := ⟨fun written => tokens written.leaf⟩

/-- An operand as it is written. -/
inductive WrittenOperand where
  | column (leaf : Leaf .identifier)
  | number (leaf : Leaf .number)
  | string (leaf : Leaf .string)

namespace WrittenOperand

/-- The token of the operand. -/
def token : WrittenOperand → Token
  | .column leaf => leaf.val
  | .number leaf => leaf.val
  | .string leaf => leaf.val

instance : Phrase WrittenOperand := ⟨fun written => [written.token]⟩

/-- The operand that is written. -/
def operand : WrittenOperand → Operand
  | .column leaf => .column leaf.val.text
  | .number leaf => .number leaf.val.text
  | .string leaf => .string leaf.val.text

end WrittenOperand

/-- A comparison as it is written. -/
structure WrittenComparison where
  column : Leaf .identifier
  comparator : WrittenComparator
  operand : WrittenOperand

namespace WrittenComparison

instance : Phrase WrittenComparison where
  tokens written := tokens written.column ++ (tokens written.comparator ++ tokens written.operand)

/-- The comparison that is written. -/
def comparison (written : WrittenComparison) : Comparison :=
  ⟨written.column.val.text, written.comparator.op, written.operand.operand⟩

end WrittenComparison

/-- Comparisons as they are written, with AND between them. -/
abbrev WrittenConjunction := Chain (.keyword .and) WrittenComparison

/-- The comparisons joined by AND, grouped from the left. -/
def WrittenConjunction.condition (written : WrittenConjunction) : Condition :=
  .joined .and (.leaf written.first.comparison)
    (written.others.map fun other => .leaf other.2.comparison)

/-- Conjunctions as they are written, with OR between them. -/
abbrev WrittenCondition := Chain (.keyword .or) WrittenConjunction

/-- The conjunctions joined by OR, grouped from the left. -/
def WrittenCondition.condition (written : WrittenCondition) : Condition :=
  .joined .or (WrittenConjunction.condition written.first)
    (written.others.map fun other => WrittenConjunction.condition other.2)

/-! ## Clauses -/

/-- A direction as it is written, or left out. -/
inductive WrittenDirection where
  | desc (leaf : Leaf (.keyword .desc))
  | asc (leaf : Leaf (.keyword .asc))
  | unwritten

namespace WrittenDirection

instance : Phrase WrittenDirection where
  tokens
    | .desc leaf => tokens leaf
    | .asc leaf => tokens leaf
    | .unwritten => []

/-- The direction that is written, ascending if it is left out. -/
def direction : WrittenDirection → Direction
  | .desc _ => .desc
  | .asc _ => .asc
  | .unwritten => .asc

end WrittenDirection

/-- A sort key as it is written. -/
structure WrittenSortKey where
  column : Leaf .identifier
  direction : WrittenDirection

namespace WrittenSortKey

instance : Phrase WrittenSortKey where
  tokens written := tokens written.column ++ tokens written.direction

/-- The sort key that is written. -/
def sortKey (written : WrittenSortKey) : SortKey :=
  ⟨written.column.val.text, written.direction.direction⟩

end WrittenSortKey

/-- What a keyword announces, if it is written at all: the keyword and the part. -/
abbrev Announced (keyword : Keyword) (τ : Type) := Option (Leaf (.keyword keyword) × τ)

/-- What follows GROUP. -/
structure WrittenGroups where
  byWord : Leaf (.keyword .by)
  names : WrittenNames
  having : Announced .having WrittenCondition

namespace WrittenGroups

instance : Phrase WrittenGroups where
  tokens written := tokens written.byWord ++ (tokens written.names ++ tokens written.having)

/-- The names to group by and the condition on the groups. -/
def groups (written : WrittenGroups) : List String × Option Condition :=
  (WrittenNames.names written.names,
    written.having.map fun having => WrittenCondition.condition having.2)

end WrittenGroups

/-- What follows ORDER. -/
structure WrittenOrdering where
  byWord : Leaf (.keyword .by)
  keys : Chain .comma WrittenSortKey

namespace WrittenOrdering

instance : Phrase WrittenOrdering where
  tokens written := tokens written.byWord ++ tokens written.keys

/-- The sort keys in the order in which they are written. -/
def sortKeys (written : WrittenOrdering) : List SortKey :=
  written.keys.parts.map (·.sortKey)

end WrittenOrdering

/-- A semicolon, which can be left out unless it is required. -/
def WrittenTerminator (required : Bool) :=
  { written : Option (Leaf .semicolon) // required = true → written.isSome = true }

instance (required : Bool) : Phrase (WrittenTerminator required) :=
  ⟨fun written => tokens written.val⟩

/-! ## Statements -/

/-- A statement as it is written, clause by clause. -/
structure Derivation (terminatorRequired : Bool) where
  select : Leaf (.keyword .select)
  projection : WrittenProjection
  fromWord : Leaf (.keyword .from)
  tables : WrittenNames
  filter : Announced .where WrittenCondition
  groups : Announced .group WrittenGroups
  ordering : Announced .order WrittenOrdering
  terminator : WrittenTerminator terminatorRequired

namespace Derivation

variable {terminatorRequired : Bool}

instance : Phrase (Derivation terminatorRequired) where
  tokens written :=
    tokens written.select ++ (tokens written.projection ++ (tokens written.fromWord ++
      (tokens written.tables ++ (tokens written.filter ++ (tokens written.groups ++
        (tokens written.ordering ++ tokens written.terminator))))))

/-- The query that the statement stands for; a clause that is left out is empty or absent. -/
def query (written : Derivation terminatorRequired) : Query where
  columns := written.projection.projection
  tables := WrittenNames.names written.tables
  filter := written.filter.map fun filter => WrittenCondition.condition filter.2
  grouping := (written.groups.map fun groups => WrittenNames.names groups.2.names).getD []
  having := written.groups.bind fun groups =>
    groups.2.having.map fun having => WrittenCondition.condition having.2
  ordering := (written.ordering.map fun ordering => ordering.2.sortKeys).getD []
  terminated := written.terminator.val.isSome

end Derivation

/-- The tokens can be derived as a statement. -/
def IsSentence (terminatorRequired : Bool) (tokens : List Token) : Prop :=
  ∃ derivation : Derivation terminatorRequired, Phrase.tokens derivation = tokens

end SelectLang

import SelectLang.Json.Basic
import SelectLang.Query.Basic

/-!
# Queries as documents

The JSON form of a query.  An alternative with content is an object whose one field names it; an
alternative without is its name as a string.
-/

namespace SelectLang

/-- An alternative with its content. -/
def Json.tagged (tag : String) (content : Json) : Json := .object [(tag, content)]

/-- A list of strings. -/
def Json.strings (items : List String) : Json := .array (items.map .string)

/-- The name of the comparator in a document. -/
def Comparator.tag : Comparator → String
  | .eq => "Eq"
  | .ne => "NotEq"
  | .lt => "Lt"
  | .le => "LtEq"
  | .gt => "Gt"
  | .ge => "GtEq"

/-- The name of the connective in a document. -/
def Connective.tag : Connective → String
  | .and => "And"
  | .or => "Or"

/-- The name of the direction in a document. -/
def Direction.tag : Direction → String
  | .asc => "Asc"
  | .desc => "Desc"

/-- The operand, tagged by what it is. -/
def Operand.toJson : Operand → Json
  | .column name => .tagged "Identifier" (.string name)
  | .number text => .tagged "Number" (.string text)
  | .string content => .tagged "String" (.string content)

/-- The comparison with its three parts. -/
def Comparison.toJson (c : Comparison) : Json :=
  .object [("column", .string c.column), ("op", .string c.op.tag), ("value", c.operand.toJson)]

/-- The tree, each node tagged as a comparison or as a joined pair. -/
def Condition.toJson : Condition → Json
  | .leaf c => .tagged "Comparison" c.toJson
  | .node left op right =>
      .tagged "Binary"
        (.object [("left", left.toJson), ("op", .string op.tag), ("right", right.toJson)])

/-- The projection: the names in a list, or a word for all of them. -/
def Projection.toJson : Projection → Json
  | .all => .string "Wildcard"
  | .columns names => .tagged "Columns" (.strings names)

/-- The sort key with its two parts. -/
def SortKey.toJson (key : SortKey) : Json :=
  .object [("column", .string key.column), ("direction", .string key.direction.tag)]

/-- The query, clause by clause; an absent condition is null and an absent list is empty. -/
def Query.toJson (q : Query) : Json :=
  .object
    [("columns", q.columns.toJson),
     ("tables", .strings q.tables),
     ("where_clause", (q.filter.map Condition.toJson).getD .null),
     ("group_by", .strings q.grouping),
     ("having", (q.having.map Condition.toJson).getD .null),
     ("order_by", .array (q.ordering.map SortKey.toJson)),
     ("terminated", .bool q.terminated)]

end SelectLang

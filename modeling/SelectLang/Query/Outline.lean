import SelectLang.Query.Render

/-!
# Outlines

A query with one clause on each line, and its conditions drawn as trees: a connective stands above
its two sides, which are indented by two blanks more.
-/

namespace SelectLang

/-- Two blanks for each level of depth. -/
def indentation (depth : Nat) : String := String.ofList (List.replicate (2 * depth) ' ')

/-- The lines one after the other, each ended by a newline. -/
def endLines (lines : List String) : String := String.join (lines.map (· ++ "\n"))

namespace Condition

/-- One line for each node, a node before its left side and that before its right side. -/
def outline (depth : Nat) : Condition → List String
  | .leaf c => [indentation depth ++ c.render]
  | .node left op right =>
      (indentation depth ++ op.render) :: (left.outline (depth + 1) ++ right.outline (depth + 1))

/-- The drawn tree as a text. -/
def draw (depth : Nat) (c : Condition) : String := endLines (c.outline depth)

end Condition

namespace Query

/-- One line for each clause, with the drawn trees under WHERE and HAVING. -/
def outline (q : Query) : List String :=
  ["SELECT " ++ q.columns.render, "FROM " ++ commaList q.tables]
    ++ (match q.filter with
      | none => []
      | some c => "WHERE" :: c.outline 1)
    ++ (if q.grouping.isEmpty then [] else
      ("GROUP BY " ++ commaList q.grouping) ::
        match q.having with
        | none => []
        | some c => "HAVING" :: c.outline 1)
    ++ (if q.ordering.isEmpty then [] else
      ["ORDER BY " ++ commaList (q.ordering.map SortKey.render)])

/-- The outline as a text. -/
def draw (q : Query) : String := endLines q.outline

end Query

end SelectLang

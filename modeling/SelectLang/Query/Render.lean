import SelectLang.Query.Basic

/-!
# Queries on one line

A query written as a statement: keywords in capitals, one blank between words, a direction after
every sort key.  A restriction of groups is left out where no groups are formed.
-/

namespace SelectLang

/-- Names with a comma and a blank between them. -/
def commaList (names : List String) : String := ", ".intercalate names

/-- The projection as it stands in a statement. -/
def Projection.render : Projection → String
  | .all => "*"
  | .columns names => commaList names

/-- The sort key as it stands in a statement. -/
def SortKey.render (key : SortKey) : String := key.column ++ " " ++ key.direction.keyword.spelling

namespace Query

/-- The statement that the query stands for. -/
def render (q : Query) : String :=
  "SELECT " ++ q.columns.render ++ " FROM " ++ commaList q.tables
    ++ (match q.filter with
      | none => ""
      | some c => " WHERE " ++ c.render)
    ++ (if q.grouping.isEmpty then "" else
      " GROUP BY " ++ commaList q.grouping
        ++ match q.having with
          | none => ""
          | some c => " HAVING " ++ c.render)
    ++ (if q.ordering.isEmpty then "" else
      " ORDER BY " ++ commaList (q.ordering.map SortKey.render))
    ++ (if q.terminated then ";" else "")

end Query

end SelectLang

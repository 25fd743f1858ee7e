import DashQuery.Label.Table
import DashQuery.Query.Lexer
import DashQuery.Text.Blank

/-!
# Grouping

A query is grouped by the attributes of its by clause or, without one, by the attributes that a
wildcard follows in its selector.  The two sources are never mixed.
-/

namespace DashQuery.Query

/-- The attributes of a by clause, blank ones included. -/
def byAttributes (text : String) : List String :=
  match byClause? text.toList with
  | some clause => (clause.splitOn ',').map fun piece => String.ofList (Text.trim piece)
  | none => []

/-- The attributes of the selector that a wildcard follows. -/
def wildcardAttributes (text : String) : List String :=
  match selector? text.toList with
  | some selector => (wildcardLabels selector).map String.ofList
  | none => []

/-- The labels that a query text groups by. -/
def groupLabels (text : String) (table : Label.Table) : List String :=
  match byClause? text.toList with
  | some clause =>
    (clause.splitOn ',').map fun piece => table.labelOf (String.ofList (Text.trim piece))
  | none => (wildcardAttributes text).map table.labelOf

/-- The labels that a query text groups by, in one text. -/
def renderGroupLabels (text : String) (table : Label.Table) : String :=
  Text.join ", " (groupLabels text table)

end DashQuery.Query

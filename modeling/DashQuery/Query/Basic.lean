import DashQuery.Query.Filter
import DashQuery.Query.Grouping

/-!
# Queries

A query text is read into its parts once.  The only way to fail is a text that does not begin with
an aggregation, a colon and a metric; every other irregularity has a meaning.
-/

namespace DashQuery

/-- The rollup modifiers of a query. -/
structure Query.Modifiers where
  asCount : Bool
  asRate : Bool
  deriving DecidableEq, Repr

/-- The parts of a query. -/
structure Query where
  aggregation : Query.Aggregation
  /-- The name of the metric, without blanks around it. -/
  metric : String
  filters : List Query.Filter
  /-- The labels that the query groups by. -/
  groupBy : List String
  /-- The attributes of the by clause, not yet renamed. -/
  byClause : List String
  modifiers : Query.Modifiers
  deriving DecidableEq, Repr

namespace Query

/-- A query text that does not begin with an aggregation and a metric. -/
structure Unparseable where
  text : String
  deriving DecidableEq, Repr

/-- The wording of the error. -/
def Unparseable.message (e : Unparseable) : String :=
  "Unparseable query '" ++ e.text ++ "': expected AGGREGATION:metric\x7b...\x7d"

/-- The modifiers that occur anywhere in a query text. -/
def Modifiers.scan (text : String) : Modifiers :=
  { asCount := Text.hasInfix asCountText.toList text.toList
    asRate := Text.hasInfix asRateText.toList text.toList }

/-- The query that a text stands for, its grouping renamed by a label table. -/
def parse (text : String) (table : Label.Table) : Except Unparseable Query :=
  match head? text.toList with
  | none => .error ⟨text⟩
  | some (token, metric) =>
    match Aggregation.ofToken? token with
    | none => .error ⟨text⟩
    | some aggregation =>
      .ok
        { aggregation
          metric := String.ofList (Text.trim metric)
          filters := selectorFilters text
          groupBy := groupLabels text table
          byClause := byAttributes text
          modifiers := .scan text }

/-- Whether the query is grouped; a single blank label does not group. -/
def isGrouped (q : Query) : Bool :=
  match q.groupBy with
  | [] => false
  | [label] => label != ""
  | _ => true

/-- The labels to group by, none if the query is not grouped. -/
def grouping (q : Query) : List String := if q.isGrouped then q.groupBy else []

end Query

end DashQuery

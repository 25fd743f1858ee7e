import DashQuery.Log
import DashQuery.Promql.OfQuery
import DashQuery.Query.Title
import DashQuery.Settings.Basic

/-!
# Converting queries

A converter holds a compiled rule table and a label table.  It turns a query text into PromQL and a
title; of a list of texts it converts those that are queries and reports the others.
-/

namespace DashQuery

/-- A query text with what it was converted to. -/
structure Converted where
  query : String
  promql : String
  title : String
  deriving DecidableEq, Repr

/-- The tables that conversion works with. -/
structure Converter where
  rules : Metric.RuleTable
  labels : Label.Table

/-- The PromQL of a query text. -/
def Promql.ofText (text : String) (rules : Metric.RuleTable) (labels : Label.Table) :
    Except Query.Unparseable String :=
  match Query.parse text labels with
  | .error e => .error e
  | .ok q => .ok (Promql.Expr.ofQuery q (rules.classify q.metric) labels).render

namespace Converter

/-- A converter with the tables of the settings, and what is reported when it is made. -/
def ofSettings (settings : Settings) :
    Except Metric.InvalidPattern (Converter × List Log.Event) :=
  match Metric.RuleTable.compile settings.rules with
  | .error e => .error e
  | .ok rules =>
    .ok (⟨rules, settings.labels⟩,
      rules.warnings.map .ruleProblem ++ [.tablesLoaded rules.size settings.labels.size])

/-- The conversion of one query, with what is reported on the way. -/
def convertQuery (c : Converter) (text : String) (q : Query) : Converted × List Log.Event :=
  let kind := c.rules.classify q.metric
  let promql := (Promql.Expr.ofQuery q kind c.labels).render
  (⟨text, promql, q.title⟩,
    [.classified q.metric kind, .emitted q.aggregation kind q.metric promql])

/-- The conversion of one query text. -/
def convert (c : Converter) (text : String) : Except Query.Unparseable Converted :=
  match Query.parse text c.labels with
  | .error e => .error e
  | .ok q => .ok (c.convertQuery text q).1

/-- The conversions of the texts that are queries, in order, with what is reported on the way. -/
def convertAll (c : Converter) : List String → List Converted × List Log.Event
  | [] => ([], [])
  | text :: texts =>
    let (converted, events) := c.convertAll texts
    match Query.parse text c.labels with
    | .ok q =>
      let (result, reported) := c.convertQuery text q
      (result :: converted, reported ++ events)
    | .error _ => (converted, .notConverted text :: events)

end Converter

end DashQuery

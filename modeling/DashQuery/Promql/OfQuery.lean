import DashQuery.Promql.Expr
import DashQuery.Query.Basic

/-!
# The expression of a query

Which functions stand around the selector depends on the aggregation, on the kind of the metric and
on whether the query is grouped.  Some metrics count in a way of their own; these exceptions are
found by the exact name.
-/

namespace DashQuery.Promql

/-- What a count means. -/
inductive CountMode where
  /-- Events per second. -/
  | rate
  /-- Events in the window. -/
  | total
  deriving DecidableEq, Repr

/-- The written name of a count mode. -/
def CountMode.name : CountMode → String
  | rate => "rate"
  | total => "total"

/-- What is special about one metric. -/
structure Override where
  metric : String
  /-- What a count without a modifier means. -/
  defaultCount : CountMode
  /-- Whether totals are summed into one series even without grouping. -/
  sumUngroupedTotals : Bool
  deriving DecidableEq, Repr

/-- The metrics that are exceptions. -/
def overrides : List Override := [⟨"http.server.request.duration", .total, true⟩]

/-- What is special about a metric, if it is an exception. -/
def override? (metric : String) : Option Override := overrides.find? (·.metric = metric)

/-- What a count means under the modifiers, of which the rate wins. -/
def countMode (modifiers : Query.Modifiers) (special? : Option Override) : CountMode :=
  if modifiers.asRate then .rate
  else if modifiers.asCount then .total
  else
    match special? with
    | some special => special.defaultCount
    | none => .rate

/-- The selector of a query on a metric of the given kind. -/
def selectorOf (q : Query) (kind : Metric.Kind) (table : Label.Table) : Selector :=
  { metric := q.metric, kind, matchers := q.filters.map fun f => f.matcher table }

namespace Expr

/-- The rate of the selected series. -/
def rate (s : Selector) : Expr := call .rate (range s rateWindow)

/-- The increase of the selected series. -/
def increase (s : Selector) : Expr := call .increase (range s rateWindow)

/-- The sum by the labels, or the expression itself if there are no labels. -/
def sumBy (labels : List String) (e : Expr) : Expr :=
  if labels.isEmpty then e else aggregate .sum labels e

/-- The total of a count. -/
def total (q : Query) (special? : Option Override) (s : Selector) : Expr :=
  let collapse := special?.any (·.sumUngroupedTotals)
  call .histogramSum
    (if q.isGrouped || collapse then aggregate .sum q.grouping (increase s) else increase s)

/-- The labels to group by before a quantile is taken: the bucket has to survive. -/
def quantileGrouping (q : Query) : List String :=
  if q.isGrouped then q.groupBy ++ ["le"] else []

/-- The greatest or least value; of a histogram the mean stands in for it. -/
def extreme (op : Operator) (q : Query) (kind : Metric.Kind) (s : Selector) : Expr :=
  match kind with
  | .histogram => call .histogramAvg (aggregate .sum q.grouping (rate s))
  | .sum => aggregate op q.grouping (rate s)
  | .gauge => aggregate op q.grouping (selector s)

/-- The expression of a query on a metric of the given kind. -/
def ofQuery (q : Query) (kind : Metric.Kind) (table : Label.Table) : Expr :=
  let s := selectorOf q kind table
  let special? := override? q.metric
  match q.aggregation with
  | .percentile rank =>
    quantile (Query.Aggregation.quantileOfRank rank)
      (aggregate .sum (quantileGrouping q) (rate s))
  | .count =>
    match countMode q.modifiers special? with
    | .rate => aggregate .sum q.grouping (rate s)
    | .total => total q special? s
  | .sum =>
    match kind with
    | .histogram => call .histogramSum (sumBy q.grouping (rate s))
    | .sum => aggregate .sum q.grouping (rate s)
    | .gauge => aggregate .sum q.grouping (selector s)
  | .avg =>
    match kind with
    | .histogram => call .histogramAvg (sumBy q.grouping (rate s))
    | .gauge => aggregate .avg q.grouping (selector s)
    | .sum => aggregate .avg q.grouping (selector s)
  | .max => extreme .max q kind s
  | .min => extreme .min q kind s

end Expr

end DashQuery.Promql

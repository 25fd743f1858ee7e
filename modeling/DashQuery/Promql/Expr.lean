import DashQuery.Decimal.Plain
import DashQuery.Metric.Kind
import DashQuery.Promql.Matcher
import DashQuery.Text.Scan

/-!
# PromQL expressions

Expressions are built from one selector by functions and aggregations:

```
histogram_quantile(0.95, sum by (le) (rate({otel_metric_name = "m", …}[2m])))
```
-/

namespace DashQuery.Promql

/-- The aggregations of PromQL that are used. -/
inductive Operator where
  | sum
  | avg
  | min
  | max
  deriving DecidableEq, Repr

/-- The written name of an aggregation. -/
def Operator.name : Operator → String
  | sum => "sum"
  | avg => "avg"
  | min => "min"
  | max => "max"

/-- The aggregation with the given name. -/
def Operator.ofName? (text : String) : Option Operator :=
  [sum, avg, min, max].find? (·.name = text)

/-- The functions of PromQL that are used. -/
inductive Function where
  | rate
  | increase
  | histogramSum
  | histogramAvg
  deriving DecidableEq, Repr

namespace Function

/-- All functions, in the order in which they are listed. -/
def all : List Function := [rate, increase, histogramSum, histogramAvg]

/-- The written name of a function. -/
def name : Function → String
  | rate => "rate"
  | increase => "increase"
  | histogramSum => "histogram_sum"
  | histogramAvg => "histogram_avg"

/-- The function with the given name. -/
def ofName? (text : String) : Option Function := all.find? (·.name = text)

/-- Whether the argument of a function is a range vector. -/
def takesRange : Function → Bool
  | rate => true
  | increase => true
  | histogramSum => false
  | histogramAvg => false

end Function

/-- The label that carries the name of a metric. -/
def metricLabel : String := "otel_metric_name"

/-- The label that carries the kind of a metric. -/
def kindLabel : String := "otel_metric_type"

/-- The window of every rate and increase. -/
def rateWindow : String := "2m"

/-- The series of one metric that pass the matchers. -/
structure Selector where
  metric : String
  kind : Metric.Kind
  matchers : List Matcher
  deriving DecidableEq, Repr

/-- The text of a selector: its metric, its kind, then its matchers. -/
def Selector.render (s : Selector) : String :=
  "\x7b" ++ metricLabel ++ " = \"" ++ s.metric ++ "\", " ++ kindLabel ++ " = \"" ++ s.kind.name ++
    "\"" ++ String.join (s.matchers.map fun m => ", " ++ m.render) ++ "\x7d"

/-- A PromQL expression. -/
inductive Expr where
  /-- An instant vector. -/
  | selector (s : Selector)
  /-- A range vector over a window. -/
  | range (s : Selector) (window : String)
  | call (f : Function) (arg : Expr)
  /-- An aggregation into groups by labels, into one group if there are none. -/
  | aggregate (op : Operator) (grouping : List String) (arg : Expr)
  /-- The quantile of a histogram. -/
  | quantile (q : Float) (arg : Expr)
  deriving Repr

namespace Expr

/-- Whether a range vector occurs. -/
def hasRange : Expr → Bool
  | selector _ => false
  | range _ _ => true
  | call _ arg => arg.hasRange
  | aggregate _ _ arg => arg.hasRange
  | quantile _ arg => arg.hasRange

/-- Whether a function occurs. -/
def uses (g : Function) : Expr → Bool
  | selector _ => false
  | range _ _ => false
  | call f arg => f == g || arg.uses g
  | aggregate _ _ arg => arg.uses g
  | quantile _ arg => arg.uses g

/-- The functions that occur, in the order in which they are listed. -/
def usedFunctions (e : Expr) : List Function := Function.all.filter fun f => e.uses f

/-- The selector that the expression is built from. -/
def leaf : Expr → Selector
  | selector s => s
  | range s _ => s
  | call _ arg => arg.leaf
  | aggregate _ _ arg => arg.leaf
  | quantile _ arg => arg.leaf

/-- The text of an expression. -/
def render : Expr → String
  | selector s => s.render
  | range s window => s.render ++ "[" ++ window ++ "]"
  | call f arg => f.name ++ "(" ++ arg.render ++ ")"
  | aggregate op [] arg => op.name ++ "(" ++ arg.render ++ ")"
  | aggregate op (label :: labels) arg =>
    op.name ++ " by (" ++ Text.join ", " (label :: labels) ++ ") (" ++ arg.render ++ ")"
  | quantile q arg => "histogram_quantile(" ++ Decimal.plainText q ++ ", " ++ arg.render ++ ")"

end Expr

end DashQuery.Promql

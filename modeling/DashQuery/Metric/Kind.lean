/-!
# Kinds of metrics
-/

namespace DashQuery.Metric

/-- What a metric measures, which decides the functions that may be applied to it. -/
inductive Kind where
  /-- A distribution such as a latency, read through functions on its buckets. -/
  | histogram
  /-- An instantaneous value, of which no rate is taken. -/
  | gauge
  /-- A counter that only grows. -/
  | sum
  deriving DecidableEq, Repr

namespace Kind

/-- The written name of a kind. -/
def name : Kind → String
  | histogram => "histogram"
  | gauge => "gauge"
  | sum => "sum"

/-- The kind with the given name. -/
def ofName? (text : String) : Option Kind :=
  [histogram, gauge, sum].find? (·.name = text)

@[simp] theorem ofName?_name (k : Kind) : ofName? k.name = some k := by
  cases k <;> decide

end Kind

end DashQuery.Metric

import DashQuery.Metric.RuleTable
import DashQuery.Promql.Expr
import DashQuery.Query.Aggregation
import DashQuery.Text.Hex
import DashQuery.Text.Scan

/-!
# Log events

What is reported while settings are loaded and queries are converted.  An event is kept as what
happened; its level and its wording are functions of it.  On a terminal the wording is shown with
its control characters escaped, so that it cannot give orders to the terminal.
-/

namespace DashQuery.Log

/-- How serious an event is, from the most serious level on. -/
inductive Level where
  | error
  | warn
  | info
  | debug
  | trace
  deriving DecidableEq, Repr

/-- The written name of a level. -/
def Level.name : Level → String
  | error => "ERROR"
  | warn => "WARN"
  | info => "INFO"
  | debug => "DEBUG"
  | trace => "TRACE"

/-- The rank of a level, the most serious one being the least. -/
def Level.rank : Level → Nat
  | error => 1
  | warn => 2
  | info => 3
  | debug => 4
  | trace => 5

/-- Something worth reporting. -/
inductive Event where
  | loading (path : String)
  | validating
  | validated (rules labels warnings : Nat)
  | ruleProblem (warning : Metric.Warning)
  | tablesLoaded (rules labels : Nat)
  | classified (metric : String) (kind : Metric.Kind)
  | emitted (aggregation : Query.Aggregation) (kind : Metric.Kind) (metric promql : String)
  | notConverted (query : String)
  | partlyConverted (converted queries : Nat)
  deriving DecidableEq, Repr

namespace Event

/-- The level of an event. -/
def level : Event → Level
  | loading _ => .info
  | validating => .info
  | validated .. => .info
  | ruleProblem _ => .warn
  | tablesLoaded .. => .debug
  | classified .. => .debug
  | emitted .. => .debug
  | notConverted _ => .warn
  | partlyConverted .. => .warn

/-- The wording of an event. -/
def message : Event → String
  | loading path => "Loading configuration from: " ++ path
  | validating => "Validating configuration..."
  | validated rules labels warnings =>
    "Configuration validation passed: " ++ Nat.repr rules ++ " rules, " ++ Nat.repr labels ++
      " mappings, " ++ Nat.repr warnings ++ " warning(s)"
  | ruleProblem warning => "Metric type rules: " ++ warning.message
  | tablesLoaded rules labels =>
    "Loaded " ++ Nat.repr rules ++ " metric type rules and " ++ Nat.repr labels ++
      " attribute mappings"
  | classified metric kind => "Classified " ++ metric ++ " as " ++ kind.name
  | emitted aggregation kind metric promql =>
    "Emitting " ++ aggregation.text ++ " on " ++ kind.name ++ " metric " ++ metric ++ ": " ++ promql
  | notConverted query => "Could not convert query: " ++ query
  | partlyConverted converted queries =>
    "Converted " ++ Nat.repr converted ++ " of " ++ Nat.repr queries ++ " queries"

end Event

/-! ## Events on a terminal -/

/-- The control characters below U+0080 that a terminal may take for orders. -/
def terminalControls : List Char := ['\x07', '\x08', '\x0c', '\x1b', '\x7f']

/-- A character as it is shown on a terminal. -/
def shownChar (c : Char) : List Char :=
  if terminalControls.contains c then ['\\', 'x'] ++ Text.hexPair c.toNat
  else if 0x80 ≤ c.toNat ∧ c.toNat < 0xA0 then
    ['\\', 'u', '\x7b'] ++ Text.hexPair c.toNat ++ ['\x7d']
  else [c]

/-- The wording of an event as it is shown on a terminal. -/
def Event.shown (e : Event) : List Char := e.message.toList.flatMap shownChar

/-- The first line of what is shown of an event. -/
def Event.headline (e : Event) : String := String.ofList (Text.firstLine e.shown)

end DashQuery.Log

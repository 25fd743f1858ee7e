/-!
# Label matchers

A matcher compares the value of one label.  The value stands between quotes as it is.
-/

namespace DashQuery.Promql

/-- How a label is compared. -/
inductive MatchOp where
  | equal
  | notEqual
  | regexMatch
  | regexNotMatch
  deriving DecidableEq, Repr

/-- The sign of a comparison. -/
def MatchOp.sign : MatchOp → String
  | equal => "="
  | notEqual => "!="
  | regexMatch => "=~"
  | regexNotMatch => "!~"

/-- The comparison with the given sign. -/
def MatchOp.ofSign? (sign : String) : Option MatchOp :=
  [equal, notEqual, regexMatch, regexNotMatch].find? (·.sign = sign)

/-- The comparison of a label with a value or a pattern. -/
structure Matcher where
  label : String
  op : MatchOp
  value : String
  deriving DecidableEq, Repr

/-- The text of a matcher. -/
def Matcher.render (m : Matcher) : String := m.label ++ m.op.sign ++ "\"" ++ m.value ++ "\""

end DashQuery.Promql

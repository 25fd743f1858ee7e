import DashQuery.Metric.Kind
import DashQuery.Pattern.Matching
import DashQuery.Pattern.Parser
import DashQuery.Pattern.Size
import DashQuery.Text.Scan

/-!
# Classification rules

A rule gives a kind to the metrics whose names its pattern matches.  The pattern `*` matches every
name.  A pattern that begins with `^` is a regular expression; a `$` is put behind its text before
it is read, and it must be small enough to be compiled.  Any other pattern is a list of alternatives
between bars, and matches the names that contain one of them.
-/

namespace DashQuery.Metric

/-- A classification rule as it is written. -/
structure Rule where
  pattern : String
  kind : Kind
  deriving DecidableEq, Repr

/-- The pattern that matches every name. -/
def defaultPattern : String := "*"

/-- What a pattern tests. -/
inductive Matcher where
  | everything
  | regexp (r : Pattern.Regexp)
  | anyOf (alternatives : List (List Char))
  deriving DecidableEq, Repr

namespace Matcher

/-- The regular expression that is read from a text with a `$` behind it, if it is well formed and
small enough. -/
def anchored? (cs : List Char) : Option Pattern.Regexp :=
  (Pattern.Regexp.parse? (cs ++ ['$'])).filter Pattern.Regexp.fits

/-- The test that a pattern stands for, unless it is a malformed regular expression. -/
def ofPattern? (pattern : String) : Option Matcher :=
  if pattern = defaultPattern then some .everything
  else
    match pattern.toList with
    | '^' :: _ => (anchored? pattern.toList).map regexp
    | cs => some (.anyOf (cs.splitOn '|'))

/-- Whether a metric name passes the test. -/
def accepts : Matcher → List Char → Bool
  | everything, _ => true
  | regexp r, name => r.search name
  | anyOf alternatives, name => alternatives.any (Text.hasInfix · name)

/-- Whether one of the alternatives is empty, so that every name contains it. -/
def hasEmptyAlternative : Matcher → Bool
  | anyOf alternatives => alternatives.any (·.isEmpty)
  | _ => false

end Matcher

end DashQuery.Metric

import DashQuery.Pattern.CharSet

/-!
# Regular expressions

The tree of a pattern.  Flags have been resolved into the sets and assertions at the leaves, and
whether a repetition is lazy leaves no trace, since a rule only asks whether a name matches.
-/

namespace DashQuery.Pattern

/-- The two sides of a place in a text with respect to words. -/
inductive WordEdge where
  | boundary
  | inside
  | start
  | finish
  | startHalf
  | finishHalf
  deriving DecidableEq, Repr

/-- A condition on a place in a text. -/
inductive Assertion where
  | textStart
  | textEnd
  /-- The start of a line; with `crlf` a carriage return ends lines too. -/
  | lineStart (crlf : Bool)
  | lineEnd (crlf : Bool)
  /-- A word edge, where with `ascii` only ASCII characters make up words. -/
  | word (edge : WordEdge) (ascii : Bool)
  deriving DecidableEq, Repr

/-- Whether a place with a word character before it or after it is such an edge. -/
def WordEdge.holds : WordEdge → (before after : Bool) → Bool
  | .boundary, b, a => b != a
  | .inside, b, a => b == a
  | .start, b, a => !b && a
  | .finish, b, a => b && !a
  | .startHalf, b, _ => !b
  | .finishHalf, _, a => !a

/-- Whether the assertion holds between the characters `before` and `after`, which are missing at
the ends of the text. -/
def Assertion.holds (a : Assertion) (before after : Option Char) : Bool :=
  match a with
  | .textStart => before.isNone
  | .textEnd => after.isNone
  | .lineStart false => before.isNone || before == some '\n'
  | .lineStart true =>
    before.isNone || before == some '\n' || (before == some '\r' && after != some '\n')
  | .lineEnd false => after.isNone || after == some '\n'
  | .lineEnd true =>
    after.isNone || after == some '\r' || (after == some '\n' && before != some '\r')
  | .word edge true => edge.holds (before.any Text.isAsciiWord) (after.any Text.isAsciiWord)
  | .word edge false => edge.holds (before.any Text.isWord) (after.any Text.isWord)

/-- A regular expression. -/
inductive Regexp where
  /-- The empty text. -/
  | empty
  /-- One character of a set. -/
  | set (s : CharSet)
  /-- The empty text at a place where the assertion holds. -/
  | look (a : Assertion)
  | concat (p q : Regexp)
  | alt (p q : Regexp)
  /-- A group that captures what `p` matches. -/
  | group (p : Regexp)
  /-- At least `lo` and at most `hi?` repetitions, any number from `lo` on if there is no `hi?`. -/
  | repeated (p : Regexp) (lo : Nat) (hi? : Option Nat)
  deriving DecidableEq, Repr

namespace Regexp

/-- The expressions one after the other, given from the last to the first. -/
def ofReversed (items : List Regexp) : Regexp :=
  items.foldl (fun rest r => concat r rest) empty

/-- The choice between a last branch and the branches before it, given from the last to the
first. -/
def choice (branch : Regexp) (earlier : List Regexp) : Regexp :=
  earlier.foldl (fun rest r => alt r rest) branch

/-- Whether the expression can only match the empty text. -/
def isBlank : Regexp → Bool
  | empty => true
  | set _ => false
  | look _ => true
  | concat p q => p.isBlank && q.isBlank
  | alt p q => p.isBlank && q.isBlank
  | group p => p.isBlank
  | repeated p _ hi? => p.isBlank || hi? == some 0

end Regexp

end DashQuery.Pattern

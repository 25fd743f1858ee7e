import DashQuery.Pattern.Spans

/-!
# Matching

A text is run through an expression some of whose sets carry marks.  At every place of the text a
marked set has just matched the character in front of the place, as part of a match that began
earlier.  From the marks and the characters around the place follows which parts of the expression
have a match that ends there, and with the next character the marks move on.  So the time grows with
the product of the lengths of the text and the expression, however repetitions are nested, and parts
without marks take none.

Counted repetitions are written out first, but never more often than the text has places: in more
rounds than that some round matches the empty text, and leaving it out or repeating it changes
nothing.  For the same reason one round stands for all if every round is empty.
-/

namespace DashQuery.Pattern

/-- An expression whose repetitions are written out, as far as their number has a bound. -/
inductive Plain where
  | empty
  | set (s : CharSet)
  | look (a : Assertion)
  | concat (p q : Plain)
  | alt (p q : Plain)
  /-- One or more rounds. -/
  | loop (p : Plain)
  deriving DecidableEq, Repr

namespace Plain

/-- The expression `n` times one after the other. -/
def copies (p : Plain) (n : Nat) : Plain :=
  if n = 0 then empty
  else if n = 1 then p
  else
    let half := copies p (n / 2)
    if n % 2 = 0 then concat half half else concat p (concat half half)
termination_by n
decreasing_by omega

/-- The repetition of an expression that is written out for at most `most` rounds. -/
def rounds (most : Nat) (p : Plain) (lo : Nat) : Option Nat → Plain
  | none => if lo = 0 then alt (loop p) empty else concat (copies p (min lo most - 1)) (loop p)
  | some hi => concat (copies p (min lo most)) (copies (alt p empty) (min (hi - lo) most))

/-- The expression written out for texts with `most` places. -/
def ofRegexp (most : Nat) : Regexp → Plain
  | .empty => empty
  | .set s => set s
  | .look a => look a
  | .concat p q => concat (ofRegexp most p) (ofRegexp most q)
  | .alt p q => alt (ofRegexp most p) (ofRegexp most q)
  | .group p => ofRegexp most p
  | .repeated p lo hi? =>
    if p.isBlank then
      if lo = 0 then empty else ofRegexp most p
    else rounds most (ofRegexp most p) lo hi?

/-- Whether the empty text matches between the characters `before` and `after`. -/
def passes (before after : Option Char) : Plain → Bool
  | empty => true
  | set _ => false
  | look a => a.holds before after
  | concat p q => p.passes before after && q.passes before after
  | alt p q => p.passes before after || q.passes before after
  | loop p => p.passes before after

end Plain

/-- An expression with marks on its sets. -/
inductive Marked where
  /-- An expression without marks. -/
  | idle (p : Plain)
  /-- A set with a mark. -/
  | hit (s : CharSet)
  | concat (p q : Marked)
  | alt (p q : Marked)
  | loop (p : Marked)
  deriving DecidableEq, Repr

namespace Marked

/-- Two expressions one after the other. -/
def inRow : Marked → Marked → Marked
  | idle p, idle q => idle (.concat p q)
  | p, q => concat p q

/-- The choice between two expressions. -/
def either : Marked → Marked → Marked
  | idle p, idle q => idle (.alt p q)
  | p, q => alt p q

/-- One or more rounds of an expression. -/
def oneOrMore : Marked → Marked
  | idle p => idle (.loop p)
  | p => loop p

/-- A set with a mark if the mark is set. -/
def ofSet (s : CharSet) (mark : Bool) : Marked := if mark then hit s else idle (.set s)

end Marked

/-- The expression behind the character `after` if matches begin in front of it, behind `before`. -/
def Plain.enter (before after : Option Char) : Plain → Marked
  | empty => .idle empty
  | set s => .ofSet s (after.any s.contains)
  | look a => .idle (look a)
  | concat p q =>
    (p.enter before after).inRow
      (if p.passes before after then q.enter before after else .idle q)
  | alt p q => (p.enter before after).either (q.enter before after)
  | loop p => (p.enter before after).oneOrMore

/-- What is known of a marked expression at a place of the text. -/
structure Reading where
  /-- Whether the empty text at the place matches. -/
  passes : Bool
  /-- Whether a match that began at an earlier place ends here. -/
  ends : Bool
  /-- The expression at the next place, given whether a match may begin here. -/
  move : Bool → Marked

/-- What is known of a marked expression between the characters `before` and `after`. -/
def Marked.read (before after : Option Char) : Marked → Reading
  | idle p =>
    ⟨p.passes before after, false, fun enter => if enter then p.enter before after else idle p⟩
  | hit s => ⟨false, true, fun enter => ofSet s (enter && after.any s.contains)⟩
  | concat p q =>
    let x := p.read before after
    let y := q.read before after
    ⟨x.passes && y.passes, y.ends || (x.ends && y.passes),
      fun enter => (x.move enter).inRow (y.move ((enter && x.passes) || x.ends))⟩
  | alt p q =>
    let x := p.read before after
    let y := q.read before after
    ⟨x.passes || y.passes, x.ends || y.ends, fun enter => (x.move enter).either (y.move enter)⟩
  | loop p =>
    let x := p.read before after
    ⟨x.passes, x.ends, fun enter => (x.move (enter || x.ends)).oneOrMore⟩

/-- Whether a match ends somewhere in a text behind the character `before`, where matches may begin
at every place. -/
def Marked.matchesSome (p : Marked) (before : Option Char) : List Char → Bool
  | [] =>
    let x := p.read before none
    x.passes || x.ends
  | c :: cs =>
    let x := p.read before (some c)
    x.passes || x.ends || (x.move true).matchesSome (some c) cs

/-- Whether a match ends at the end of a text behind the character `before`, where matches may
begin at the front at most. -/
def Marked.matchesToEnd (p : Marked) (enter : Bool) (before : Option Char) : List Char → Bool
  | [] =>
    let x := p.read before none
    x.ends || (enter && x.passes)
  | c :: cs => ((p.read before (some c)).move enter).matchesToEnd false (some c) cs

/-- The expression prepared for a text. -/
def Regexp.marked (r : Regexp) (text : List Char) : Marked :=
  .idle (.ofRegexp (text.length + 1) r)

/-- Whether the expression matches some part of the text. -/
def Regexp.search (r : Regexp) (text : List Char) : Bool := (r.marked text).matchesSome none text

/-- Whether the expression matches the whole text. -/
def Regexp.matchesWhole (r : Regexp) (text : List Char) : Bool :=
  (r.marked text).matchesToEnd true none text

end DashQuery.Pattern

import DashQuery.Pattern.Regexp

/-!
# The meaning of regular expressions

`Spans text r i j` says that `r` matches the part of `text` from place `i` to place `j`.  Places are
counted from zero, and an assertion sees the characters on both sides of its place.
-/

namespace DashQuery.Pattern

/-- The characters before and after place `i`. -/
def around (text : List Char) (i : Nat) : Option Char × Option Char :=
  (if i = 0 then none else text[i - 1]?, text[i]?)

/-- The expression matches the part of the text from place `i` to place `j`. -/
inductive Spans (text : List Char) : Regexp → Nat → Nat → Prop where
  | empty {i : Nat} : i ≤ text.length → Spans text .empty i i
  | set {s : CharSet} {i : Nat} {c : Char} :
      text[i]? = some c → s.contains c = true → Spans text (.set s) i (i + 1)
  | look {a : Assertion} {i : Nat} :
      i ≤ text.length → a.holds (around text i).1 (around text i).2 = true →
      Spans text (.look a) i i
  | concat {p q : Regexp} {i j k : Nat} :
      Spans text p i j → Spans text q j k → Spans text (.concat p q) i k
  | altLeft {p q : Regexp} {i j : Nat} : Spans text p i j → Spans text (.alt p q) i j
  | altRight {p q : Regexp} {i j : Nat} : Spans text q i j → Spans text (.alt p q) i j
  | group {p : Regexp} {i j : Nat} : Spans text p i j → Spans text (.group p) i j
  | stop {p : Regexp} {hi? : Option Nat} {i : Nat} :
      i ≤ text.length → Spans text (.repeated p 0 hi?) i i
  | again {p : Regexp} {lo : Nat} {hi? : Option Nat} {i j k : Nat} :
      hi? ≠ some 0 → Spans text p i j →
      Spans text (.repeated p (lo - 1) (hi?.map (· - 1))) j k →
      Spans text (.repeated p lo hi?) i k

end DashQuery.Pattern

import DashQuery.Text.Ranges

/-!
# Coded tables of code points

The tables of character properties are large, so a set of code points is kept as a row of letters.
The letters spell numbers in base 26, all digits of a number but its last one in upper case.  The
numbers come in pairs, one for each range of the set in order: how many code points lie between the
range before and this one, and how many follow the first one in the range.
-/

namespace DashQuery.Text.Property

/-- A property, or a value of one, by its names and the code of its code points. -/
structure Entry where
  /-- The names in the form that `looseName` gives. -/
  names : List String
  code : List String
  deriving DecidableEq, Repr

/-- The numbers that letters spell, where `n` is the value of the digits read before them. -/
def spelled (n : Nat) : List Char → List Nat
  | [] => []
  | c :: cs =>
    if c.isUpper then spelled (n * 26 + (c.toNat - 'A'.toNat)) cs
    else (n * 26 + (c.toNat - 'a'.toNat)) :: spelled 0 cs

/-- The ranges that pairs of numbers stand for, `next` being the code point after those before. -/
def spacedRanges (next : Nat) : List Nat → List (Nat × Nat)
  | gap :: more :: ns =>
    (next + gap, next + gap + more) :: spacedRanges (next + gap + more + 1) ns
  | _ => []

/-- The ranges that a code stands for. -/
def decode (code : List String) : List (Nat × Nat) :=
  spacedRanges 0 (spelled 0 (code.flatMap String.toList))

/-- The code points of an entry. -/
def Entry.ranges (e : Entry) : List (Nat × Nat) := decode e.code

/-- The entry with the given name. -/
def entryOf? (entries : List Entry) (name : String) : Option Entry :=
  entries.find? (·.names.contains name)

example : decode ["Cnz", "gz"] = [(65, 90), (97, 122)] := by decide

end DashQuery.Text.Property

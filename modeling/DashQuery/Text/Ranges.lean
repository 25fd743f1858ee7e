/-!
# Tables of code points

A character property is a list of closed ranges of code points, and a character map is a list of
runs.  Both are searched from the front, so every lookup ends and reduces by evaluation alone.
Ranges are *in order* if they come from the least to the greatest with gaps between them.
-/

namespace DashQuery.Text

/-- Whether `n` lies in one of the closed ranges. -/
def inRanges (ranges : List (Nat × Nat)) (n : Nat) : Bool :=
  ranges.any fun r => Nat.ble r.1 n && Nat.ble n r.2

theorem inRanges_iff {ranges : List (Nat × Nat)} {n : Nat} :
    inRanges ranges n = true ↔ ∃ r ∈ ranges, r.1 ≤ n ∧ n ≤ r.2 := by
  simp [inRanges]

/-- Ranges with one more among them, kept sorted by their first code points. -/
def insertRange (r : Nat × Nat) : List (Nat × Nat) → List (Nat × Nat)
  | [] => [r]
  | s :: rs => if r.1 ≤ s.1 then r :: s :: rs else s :: insertRange r rs

/-- The range from `lo` to `hi` and the sorted ranges behind it, those that touch being joined. -/
def joinRanges (lo hi : Nat) : List (Nat × Nat) → List (Nat × Nat)
  | [] => [(lo, hi)]
  | (a, b) :: rs =>
    if a ≤ hi + 1 then joinRanges lo (max hi b) rs else (lo, hi) :: joinRanges a b rs

/-- The ranges in order that cover the same code points. -/
def orderRanges (rs : List (Nat × Nat)) : List (Nat × Nat) :=
  match rs.foldr insertRange [] with
  | [] => []
  | (a, b) :: rs => joinRanges a b rs

/-- The greatest code point. -/
def maxCodePoint : Nat := 0x10FFFF

/-- The code points from `next` on that are in none of the ranges, which are in order. -/
def gapsFrom (next : Nat) : List (Nat × Nat) → List (Nat × Nat)
  | [] => if next ≤ maxCodePoint then [(next, maxCodePoint)] else []
  | (a, b) :: rs =>
    if next < a then (next, a - 1) :: gapsFrom (b + 1) rs else gapsFrom (b + 1) rs

/-- Ranges in order without the surrogates, which are no characters. -/
def withoutSurrogates (rs : List (Nat × Nat)) : List (Nat × Nat) :=
  (rs.flatMap fun r => [(r.1, min r.2 0xD7FF), (max r.1 0xE000, r.2)]).filter fun r => r.1 ≤ r.2

/-- The code points `first`, `first + step`, … (`count` of them), each paired with the code point
equally far from `image`. -/
structure Run where
  first : Nat
  count : Nat
  step : Nat
  image : Nat
  deriving DecidableEq, Repr

/-- How far `n` is into the run of `count` code points that starts at `start`. -/
def Run.offset? (r : Run) (start n : Nat) : Option Nat :=
  if start ≤ n && n < start + r.count * r.step && (n - start) % r.step == 0 then some (n - start)
  else none

/-- The partner of a code point on the first side of the run. -/
def Run.forward? (r : Run) (n : Nat) : Option Nat :=
  (r.offset? r.first n).map (r.image + ·)

/-- The partner of a code point on the image side of the run. -/
def Run.backward? (r : Run) (n : Nat) : Option Nat :=
  (r.offset? r.image n).map (r.first + ·)

end DashQuery.Text

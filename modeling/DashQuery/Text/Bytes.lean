import DashQuery.Text.Ranges

/-!
# Characters as bytes

A character is written as one to four bytes: the high part of its number in the first byte, and six
bits of the rest in each byte behind it.  A range of characters is a list of *rows*; each row has a
range of bytes for every byte, and stands for all ways to choose the bytes.

Two machines that read a set of characters are measured here by the count of their states: one that
reads the bytes from the front and shares equal ends, and one that reads them from the back and
shares equal fronts.
-/

namespace DashQuery.Text

/-- A row of byte ranges. -/
abbrev Row := List (Nat × Nat)

/-- The rows of the numbers from `lo` to `hi` with `more` digits of six bits behind the first. -/
def digitRows : (more lo hi : Nat) → List Row
  | 0, lo, hi => [[(lo, hi)]]
  | more + 1, lo, hi =>
    let unit := Nat.pow 64 (more + 1)
    let a := lo / unit
    let b := hi / unit
    if a = b then (digitRows more (lo % unit) (hi % unit)).map ((a, a) :: ·)
    else
      let first :=
        if lo % unit = 0 then []
        else (digitRows more (lo % unit) (unit - 1)).map ((a, a) :: ·)
      let last :=
        if hi % unit = unit - 1 then []
        else (digitRows more 0 (hi % unit)).map ((b, b) :: ·)
      let low := if lo % unit = 0 then a else a + 1
      let high := if hi % unit = unit - 1 then b else b - 1
      let middle := if low ≤ high then [(low, high) :: List.replicate (more + 1) (0, 63)] else []
      first ++ middle ++ last

/-- The code points that take up `bytes` bytes, `mark` being what is added to the first byte. -/
structure Width where
  lo : Nat
  hi : Nat
  bytes : Nat
  mark : Nat
  deriving DecidableEq, Repr

/-- The widths of all characters; surrogates are none. -/
def widths : List Width :=
  [⟨0, 0x7F, 1, 0⟩, ⟨0x80, 0x7FF, 2, 0xC0⟩, ⟨0x800, 0xD7FF, 3, 0xE0⟩, ⟨0xE000, 0xFFFF, 3, 0xE0⟩,
   ⟨0x10000, maxCodePoint, 4, 0xF0⟩]

/-- A row whose first byte is marked, and all others are marked as following it. -/
def Width.markRow (w : Width) : Row → Row
  | [] => []
  | (a, b) :: rest => (w.mark + a, w.mark + b) :: rest.map fun r => (0x80 + r.1, 0x80 + r.2)

/-- The rows of the characters of this width in a range. -/
def Width.rows (w : Width) (r : Nat × Nat) : List Row :=
  let lo := max w.lo r.1
  let hi := min w.hi r.2
  if lo ≤ hi then (digitRows (w.bytes - 1) lo hi).map w.markRow else []

/-- The rows of the characters in ranges, which are in order. -/
def rowsOfRanges (rs : List (Nat × Nat)) : List Row :=
  rs.flatMap fun r => widths.flatMap (·.rows r)

example : rowsOfRanges [(0x41, 0x5A), (0xE9, 0xE9)] =
    [[(0x41, 0x5A)], [(0xC3, 0xC3), (0xA9, 0xA9)]] := by decide

/-! ## From the back -/

/-- The count of ranges that two rows share at their front. -/
def sharedFront : Row → Row → Nat
  | r :: rs, s :: ss => if r = s then sharedFront rs ss + 1 else 0
  | _, _ => 0

/-- The count of different fronts of sorted rows that the row before them does not have. -/
def countFronts (before : Row) : List Row → Nat
  | [] => 0
  | row :: rows => (row.length - sharedFront before row) + countFronts row rows

/-! ## From the front -/

/-- The edges that leave a state: the bytes of an edge and the number of the state it leads to. -/
abbrev Edges := List ((Nat × Nat) × Nat)

/-- The number of the state with the given edges, which is made if there is none.  States are
numbered from one on and the last one comes first; zero is the end. -/
def numberState (edges : Edges) (states : List Edges) : Nat × List Edges :=
  match states.idxOf? edges with
  | some i => (states.length - i, states)
  | none => (states.length + 1, edges :: states)

/-- The number of the state that reads sorted rows of at most `most` bytes, which all have the same
front, and the states known then. -/
def stateOfRows : (most : Nat) → List Row → List Edges → Nat × List Edges
  | 0, _, states => (0, states)
  | most + 1, rows, states =>
    if rows.all (·.isEmpty) then (0, states)
    else
      let groups := rows.splitBy fun row row' => row.head? == row'.head?
      let (edges, states) := groups.foldl
        (fun (edges, states) group =>
          let (target, states) := stateOfRows most (group.map (·.tail)) states
          (edges ++ [((group.head?.bind (·.head?)).getD (0, 0), target)], states))
        (([] : Edges), states)
      numberState edges states

/-- The edges of all states that read rows from the front. -/
def statesOfRows (rows : List Row) : List Edges := (stateOfRows 5 rows []).2

end DashQuery.Text

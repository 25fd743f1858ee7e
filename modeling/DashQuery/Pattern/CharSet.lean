import DashQuery.Text.Blank
import DashQuery.Text.Case
import DashQuery.Text.Word

/-!
# Sets of characters

The sets that a pattern names with `.`, `\d`, `[a-z&&[^q]]` and so on.  A set is kept as the
expression that was written; `CharSet.contains` decides membership and `CharSet.ranges` lists the
members.
-/

namespace DashQuery.Pattern

/-- How two sets inside brackets are joined by `&&`, `--` or `~~`. -/
inductive SetOp where
  | intersection
  | difference
  | symmetricDifference
  deriving DecidableEq, Repr

/-- Membership in the joined set from membership in the two sets. -/
def SetOp.apply : SetOp → Bool → Bool → Bool
  | .intersection, a, b => a && b
  | .difference, a, b => a && !b
  | .symmetricDifference, a, b => a != b

/-- A set of characters. -/
inductive CharSet where
  /-- No character at all. -/
  | empty
  /-- The characters from `lo` to `hi`, both included. -/
  | range (lo hi : Char)
  /-- The decimal digits of every script. -/
  | digit
  /-- The word characters. -/
  | word
  /-- The white space characters. -/
  | space
  /-- The characters of a table. -/
  | table (ranges : List (Nat × Nat))
  | union (s t : CharSet)
  | joined (op : SetOp) (s t : CharSet)
  | complement (s : CharSet)
  /-- The characters that differ from a member in case only. -/
  | foldCase (s : CharSet)
  /-- The characters that differ from a member in the case of an ASCII letter only. -/
  | foldAsciiCase (s : CharSet)
  deriving DecidableEq, Repr

namespace CharSet

/-- Whether a character is in the set. -/
def contains : CharSet → Char → Bool
  | empty, _ => false
  | range lo hi, c => lo ≤ c && c ≤ hi
  | digit, c => Text.isDecimalDigit c
  | word, c => Text.isWord c
  | space, c => Text.isBlank c
  | table ranges, c => Text.inRanges ranges c.toNat
  | union s t, c => s.contains c || t.contains c
  | joined op s t, c => op.apply (s.contains c) (t.contains c)
  | complement s, c => !s.contains c
  | foldCase s, c => (Text.orbit c).any s.contains
  | foldAsciiCase s, c => s.contains c || s.contains c.toLower || s.contains c.toUpper

/-- The set of one character. -/
def single (c : Char) : CharSet := range c c

/-- The set of all characters. -/
def all : CharSet := complement empty

/-- The set that holds a character if it lies in one of the ranges. -/
def ofRanges (ranges : List (Char × Char)) : CharSet :=
  ranges.foldr (fun r s => union (range r.1 r.2) s) empty

@[simp] theorem contains_single {c d : Char} : (single c).contains d = true ↔ d = c := by
  simp only [single, contains, Bool.and_eq_true, decide_eq_true_eq]
  exact ⟨fun h => Char.le_antisymm h.2 h.1, fun h => h ▸ ⟨Char.le_refl _, Char.le_refl _⟩⟩

/-- Whether the form of the set shows that it holds, with a character, all that differ from it in
case only, or in the case of an ASCII letter only. -/
def isFolded (ascii : Bool) : CharSet → Bool
  | empty => true
  | range _ _ => false
  | digit => true
  | word => true
  | space => true
  | table _ => false
  | union s t => s.isFolded ascii && t.isFolded ascii
  | joined _ s t => s.isFolded ascii && t.isFolded ascii
  | complement s => s.isFolded ascii
  | foldCase _ => true
  | foldAsciiCase _ => ascii

/-- The set with all characters that differ from a member in case only, or in the case of an ASCII
letter only.  What has been folded is not folded again. -/
def fold (ascii : Bool) : CharSet → CharSet
  | union s t => union (s.fold ascii) (t.fold ascii)
  | s => if s.isFolded ascii then s else if ascii then foldAsciiCase s else foldCase s

/-- The ASCII letters, digits and the underscore. -/
def asciiWordRanges : List (Nat × Nat) := [(0x30, 0x39), (0x41, 0x5A), (0x5F, 0x5F), (0x61, 0x7A)]

/-- The ranges of a joined set from the ranges of its two sides. -/
def joinedRanges (op : SetOp) (rs ss : List (Nat × Nat)) : List (Nat × Nat) :=
  let gaps := Text.gapsFrom 0
  let without (rs ss : List (Nat × Nat)) := gaps (Text.orderRanges (gaps rs ++ ss))
  match op with
  | .intersection => without rs (gaps ss)
  | .difference => without rs ss
  | .symmetricDifference => Text.orderRanges (without rs ss ++ without ss rs)

/-- The code points of the members, as ranges in order. -/
def ranges : CharSet → List (Nat × Nat)
  | empty => []
  | range lo hi => [(lo.toNat, hi.toNat)]
  | digit => (0x30, 0x39) :: Text.digitRanges
  | word =>
    asciiWordRanges ++ Text.wordRangesLow ++ Text.wordRangesMiddle ++ Text.wordRangesHigh
  | space => Text.blankRanges
  | table ranges => Text.orderRanges ranges
  | union s t => Text.orderRanges (s.ranges ++ t.ranges)
  | joined op s t => joinedRanges op s.ranges t.ranges
  | complement s => Text.gapsFrom 0 s.ranges
  | foldCase s => Text.orderRanges (s.ranges ++ Text.orbitRanges s.ranges)
  | foldAsciiCase s =>
    let letters : Text.Run := ⟨0x41, 26, 1, 0x61⟩
    Text.orderRanges (s.ranges ++ letters.partners (Text.inRanges s.ranges))

/-- Whether the set holds none of the characters from U+0080 to U+00FF. -/
def isAscii (s : CharSet) : Bool :=
  (List.range 128).all fun n => !s.contains (Char.ofNat (128 + n))

end CharSet

end DashQuery.Pattern

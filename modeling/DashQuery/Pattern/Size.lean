import DashQuery.Pattern.Regexp
import DashQuery.Text.Bytes

/-!
# The size of a pattern

A pattern is compiled into two machines, one for each direction of reading, and it is refused if
one of them takes up more than `maxSize` bytes.  The size follows from the pattern alone: every
state and every edge has its price, and a counted repetition is paid for as often as it is written
out.  Before that the pattern is simplified: an alternation of characters and sets is one set, and
one of words is read letter by letter.

* `Regexp.fits`: whether a pattern can be compiled.
-/

namespace DashQuery.Pattern

/-- The price of a state. -/
def stateSize : Nat := 32

/-- The price of an edge for a range of bytes, if a state has several of them. -/
def edgeSize : Nat := 8

/-- The price of a way out of a state that has a choice. -/
def choiceSize : Nat := 4

/-- The greatest size of a compiled pattern. -/
def maxSize : Nat := 10 * 1024 * 1024

/-- What matters of the form of an expression. -/
inductive Form where
  | empty
  | word (cs : List Char)
  | set (ranges : List (Nat × Nat))
  | other
  deriving DecidableEq, Repr

/-- The sizes of the two machines of an expression, and what its size in other places depends on. -/
structure Footprint where
  form : Form
  /-- Whether every match takes up at least one character. -/
  advances : Bool
  /-- Whether every match is empty. -/
  blank : Bool
  forward : Nat
  backward : Nat
  deriving DecidableEq, Repr

namespace Footprint

/-- The footprint of the empty expression. -/
def empty : Footprint := ⟨.empty, false, true, stateSize, stateSize⟩

/-- The footprint of an assertion. -/
def look : Footprint := ⟨.other, false, true, stateSize, stateSize⟩

/-- The bytes of a word. -/
def wordBytes (cs : List Char) : List UInt8 := cs.flatMap String.utf8EncodeChar

/-- The footprint of a word. -/
def word (cs : List Char) : Footprint :=
  let size := stateSize * (wordBytes cs).length
  ⟨.word cs, true, false, size, size⟩

/-- The footprint of a set of characters beyond ASCII. -/
def wideSet (rs : List (Nat × Nat)) : Footprint :=
  let rows := Text.rowsOfRanges rs
  let states := Text.statesOfRows rows
  let forward :=
    states.foldl (fun size edges => size + stateSize + edgeSize * edges.length) stateSize
  let backward := stateSize * (2 + Text.countFronts [] rows) + choiceSize * rows.length
  ⟨.set rs, true, false, forward, backward⟩

/-- The footprint of a set of characters that is given by ranges in order. -/
def set (rs : List (Nat × Nat)) : Footprint :=
  match rs with
  | [(lo, hi)] => if lo = hi then word [Char.ofNat lo] else ofRanges rs
  | _ => ofRanges rs
where
  /-- The footprint of a set that does not hold exactly one character. -/
  ofRanges (rs : List (Nat × Nat)) : Footprint :=
    if rs.all (·.2 < 128) then
      let size := 2 * stateSize + edgeSize * rs.length
      ⟨.set rs, !rs.isEmpty, false, size, size⟩
    else wideSet rs

/-- The form of two expressions one after the other: two words are one. -/
def rowForm : Form → Form → Form
  | .word cs, .word ds => .word (cs ++ ds)
  | _, _ => .other

/-- The footprint of two expressions one after the other. -/
def concat (x y : Footprint) : Footprint :=
  match x.form, y.form with
  | .empty, _ => y
  | _, .empty => x
  | _, _ =>
    ⟨rowForm x.form y.form, x.advances || y.advances, x.blank && y.blank, x.forward + y.forward,
      x.backward + y.backward⟩

/-- The members of a set or of a word of one character. -/
def members? (x : Footprint) : Option (List (Nat × Nat)) :=
  match x.form with
  | .word [c] => some [(c.toNat, c.toNat)]
  | .set rs => some rs
  | _ => none

/-- The characters of a word. -/
def word? (x : Footprint) : Option (List Char) :=
  match x.form with
  | .word cs => some cs
  | _ => none

/-- How often words in a row end, empty words in front of all others counting once. -/
def countEnds (words : List (List UInt8)) : Nat :=
  let front := words.takeWhile (·.isEmpty)
  let rest := words.dropWhile (·.isEmpty)
  min front.length 1 + (rest.filter (·.isEmpty)).length

/-- The size of the states that read one of some words letter by letter, none of which is longer
than `most`.  Words are tried in their order, so words behind one that ends here are kept apart
from those in front of it. -/
def lettersSize : (most : Nat) → List (List UInt8) → Nat
  | 0, _ => 0
  | most + 1, words =>
    if words.all (·.isEmpty) then 0
    else
      let stretches := (words.splitOn []).filter (!·.isEmpty)
      let stretchSize (words : List (List UInt8)) : Nat :=
        let heads := (words.map (·.head?)).eraseDups
        let edges := if heads.length = 1 then 0 else edgeSize * heads.length
        heads.foldl
          (fun size head =>
            size + lettersSize most ((words.filter (·.head? == head)).map (·.tail)))
          (stateSize + edges)
      stretches.foldl (fun size words => size + stretchSize words)
        (stateSize + choiceSize * (stretches.length + countEnds words))

/-- The footprint of an alternation of words. -/
def words (words : List (List Char)) : Footprint :=
  let bytes := words.map wordBytes
  let most := (bytes.map (·.length)).foldl max 0
  ⟨.other, true, false, stateSize + lettersSize most bytes,
    stateSize + lettersSize most (bytes.map (·.reverse))⟩

/-- The footprint of an alternation. -/
def choice (xs : List Footprint) : Footprint :=
  match xs with
  | [x] => x
  | _ =>
    match xs.mapM members?, xs.mapM word? with
    | some sets, _ => set (Text.orderRanges sets.flatten)
    | none, some ws => words ws
    | none, none =>
      let total (size : Footprint → Nat) :=
        (xs.map fun x => choiceSize + size x).foldl (· + ·) (2 * stateSize)
      ⟨.other, xs.all (·.advances), xs.all (·.blank), total (·.forward), total (·.backward)⟩

/-- The footprint of a group that captures; only the machine that reads forward captures. -/
def group (x : Footprint) : Footprint :=
  { x with form := .other, forward := x.forward + 2 * stateSize }

/-- The size of a repetition of an expression of the given size. -/
def repeatedSize (advances : Bool) (lo : Nat) (hi? : Option Nat) (size : Nat) : Nat :=
  let round := size + stateSize + 2 * choiceSize
  match lo, hi? with
  | 0, none => if advances then round else size + 3 * stateSize + 4 * choiceSize
  | n + 1, none => n * size + round
  | 0, some 1 => round + stateSize
  | lo, some hi =>
    if lo = hi then lo * size
    else
      let start := if lo = 0 then stateSize else lo * size
      start + stateSize + (hi - lo) * round

/-- The footprint of a repetition.  An expression whose matches are all empty is never repeated. -/
def repeated (x : Footprint) (lo : Nat) (hi? : Option Nat) : Footprint :=
  let lo := if x.blank then min lo 1 else lo
  let hi? := if x.blank then some (min (hi?.getD 1) 1) else hi?
  if lo = 0 ∧ hi? = some 0 then empty
  else if lo = 1 ∧ hi? = some 1 then x
  else
    ⟨.other, 0 < lo && x.advances, x.blank, repeatedSize x.advances lo hi? x.forward,
      repeatedSize x.advances lo hi? x.backward⟩

end Footprint

/-- The footprints of the branches of an alternation; any other expression is its only branch. -/
def Regexp.branchFootprints : Regexp → List Footprint
  | empty => [.empty]
  | set s => [.set (Text.withoutSurrogates s.ranges)]
  | look _ => [.look]
  | concat p q => [.concat (.choice p.branchFootprints) (.choice q.branchFootprints)]
  | alt p q => p.branchFootprints ++ q.branchFootprints
  | group p => [(Footprint.choice p.branchFootprints).group]
  | repeated p lo hi? => [(Footprint.choice p.branchFootprints).repeated lo hi?]

/-- The footprint of an expression. -/
def Regexp.footprint (r : Regexp) : Footprint := .choice r.branchFootprints

/-- The size of the larger one of the two machines of a pattern.  Each has a state in front of the
pattern and one behind it, and the whole of it is a group. -/
def Regexp.size (r : Regexp) : Nat :=
  let whole := r.footprint.group
  2 * stateSize + max whole.forward whole.backward

/-- Whether a pattern can be compiled. -/
def Regexp.fits (r : Regexp) : Bool := r.size ≤ maxSize

end DashQuery.Pattern

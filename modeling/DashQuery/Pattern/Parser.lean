import DashQuery.Pattern.Token

/-!
# Reading a pattern

A pattern is read from left to right by a machine that takes one token at a time.  Its state holds
the groups and the brackets that are open, so a pattern is well formed when every token finds its
place, nothing is open at the end and its constructs are not nested too deep.  Groups, brackets,
repetitions, branches and rows of items or members count as constructs.

* `run_nil`, `run_cons`: how the machine consumes a text.
-/

namespace DashQuery.Pattern

/-- A part of a pattern together with the depth to which its constructs are nested. -/
structure Part (α : Type) where
  value : α
  depth : Nat
  deriving DecidableEq, Repr

/-- The depth of parts that stand in a row; a row of one part is that part. -/
def rowDepth : List Nat → Nat
  | [] => 0
  | [depth] => depth
  | depths => depths.foldl max 0 + 1

/-- The greatest depth of a pattern. -/
def maxDepth : Nat := 250

/-- The part of a group that has been read. -/
structure Group where
  /-- The flags in force in the rest of the group. -/
  flags : Flags
  /-- Whether the group captures what it matches. -/
  captures : Bool
  /-- The finished branches, the last one first. -/
  branches : List (Part Regexp)
  /-- The items of the branch being read, the last one first. -/
  items : List (Part Regexp)
  /-- Whether the last token left an item that a repetition can apply to. -/
  operand : Bool
  deriving DecidableEq, Repr

namespace Group

/-- A group of which nothing has been read. -/
def start (flags : Flags) (captures : Bool) : Group := ⟨flags, captures, [], [], false⟩

/-- The branch that has been read last. -/
def branch (g : Group) : Part Regexp :=
  ⟨.ofReversed (g.items.map (·.value)), rowDepth (g.items.map (·.depth))⟩

/-- The contents of a group. -/
def contents (g : Group) : Part Regexp :=
  ⟨.choice g.branch.value (g.branches.map (·.value)),
    rowDepth ((g.branch :: g.branches).map (·.depth))⟩

/-- The part that a closed group is. -/
def close (g : Group) : Part Regexp :=
  let inner := g.contents
  ⟨if g.captures then .group inner.value else inner.value, inner.depth + 1⟩

/-- The group with one more item. -/
def push (g : Group) (item : Part Regexp) : Group :=
  { g with items := item :: g.items, operand := true }

end Group

/-- The part of a set in brackets that has been read. -/
structure OpenSet where
  negated : Bool
  position : Position
  /-- The operand to the left of the last operator, and the operator. -/
  left? : Option (Part CharSet × SetOp)
  /-- The members since the last operator, the last one first. -/
  members : List (Part CharSet)
  deriving DecidableEq, Repr

namespace OpenSet

/-- A set of which only the opening bracket and its caret have been read. -/
def start (negated : Bool) : OpenSet := ⟨negated, .setFront, none, []⟩

/-- The set with one more member. -/
def push (s : OpenSet) (position : Position) (member : Part CharSet) : OpenSet :=
  { s with position := position, members := member :: s.members }

/-- The members since the last operator. -/
def operand (s : OpenSet) : Part CharSet :=
  ⟨(s.members.map (·.value)).foldl (fun union m => .union m union) .empty,
    rowDepth (s.members.map (·.depth))⟩

/-- The set with the pending operator applied. -/
def combined (s : OpenSet) (f : Flags) : Part CharSet :=
  let right := s.operand
  match s.left? with
  | none => right
  | some (left, op) =>
    ⟨.joined op (f.fold left.value) (f.fold right.value), max left.depth right.depth + 1⟩

/-- The set that the closed brackets stand for.  In ASCII mode it must not hold more than ASCII. -/
def close? (s : OpenSet) (f : Flags) : Option (Part CharSet) :=
  let inner := s.combined f
  let folded := f.fold inner.value
  let closed := if s.negated then .complement folded else folded
  if f.ascii && !closed.isAscii then none else some ⟨closed, inner.depth + 1⟩

end OpenSet

/-- What has been read of a pattern. -/
structure State where
  /-- The innermost open group. -/
  group : Group
  /-- The groups around it, from the inside out. -/
  outer : List Group
  /-- The sets in brackets that are open, from the inside out. -/
  sets : List OpenSet
  /-- The group names used so far. -/
  names : List (List Char)
  deriving DecidableEq, Repr

namespace State

/-- The state before the first token. -/
def start : State := ⟨.start .initial false, [], [], []⟩

/-- The position of the next token. -/
def position (s : State) : Position :=
  match s.sets with
  | [] => .outside
  | set :: _ => set.position

/-- The state with the innermost set changed. -/
def changeSet? (s : State) (change : OpenSet → OpenSet) : Option State :=
  match s.sets with
  | [] => none
  | set :: sets => some { s with sets := change set :: sets }

/-- The state after the innermost set is closed. -/
def closeSet? (s : State) : Option State :=
  match s.sets with
  | [] => none
  | set :: around =>
    match set.close? s.group.flags, around with
    | none, _ => none
    | some closed, [] =>
      some { s with group := s.group.push ⟨.set closed.value, closed.depth⟩, sets := [] }
    | some closed, outer :: sets => some { s with sets := outer.push .insideSet closed :: sets }

/-- The state after one more token, if the token can stand there. -/
def step? (s : State) : Token → Option State
  | .leaf r => some { s with group := s.group.push ⟨r, 0⟩ }
  | .repetition lo hi? =>
    match s.group.operand, s.group.items with
    | true, r :: items =>
      let item : Part Regexp := ⟨.repeated r.value lo hi?, r.depth + 1⟩
      some { s with group := { s.group with items := item :: items } }
    | _, _ => none
  | .openGroup flags captures name? =>
    if name?.any s.names.contains then none
    else
      some { s with
        group := .start flags captures
        outer := s.group :: s.outer
        names := name?.toList ++ s.names }
  | .closeGroup =>
    match s.outer with
    | [] => none
    | g :: outer => some { s with group := g.push s.group.close, outer := outer }
  | .setFlags flags =>
    let group := s.group.push ⟨.empty, 0⟩
    some { s with group := { group with flags := flags, operand := false } }
  | .bar =>
    let g := s.group
    some { s with group := ⟨g.flags, g.captures, g.branch :: g.branches, [], false⟩ }
  | .openSet negated => some { s with sets := .start negated :: s.sets }
  | .closeSet => s.closeSet?
  | .frontDash => s.changeSet? (·.push .behindDashes ⟨.single '-', 0⟩)
  | .member m => s.changeSet? (·.push .insideSet ⟨m, 0⟩)
  | .setOp op =>
    s.changeSet? fun set => ⟨set.negated, .insideSet, some (set.combined s.group.flags, op), []⟩

/-- The token that stands next in `c :: cs`. -/
def read? (s : State) (c : Char) (cs : List Char) : Option (Token × List Char) :=
  readToken? s.position s.group.flags c cs

/-- The expression that has been read, if nothing is open and the pattern is not too deep. -/
def finish? (s : State) : Option Regexp :=
  let whole := s.group.contents
  if s.outer.isEmpty && s.sets.isEmpty && whole.depth ≤ maxDepth then some whole.value else none

end State

/-- The state after all tokens of a text. -/
def run (s : State) (cs : List Char) : Option State :=
  match _hskip : s.group.flags.skip cs with
  | [] => some s
  | c :: rest =>
    match _hread : s.read? c rest with
    | none => none
    | some (token, rest') =>
      match s.step? token with
      | none => none
      | some s' => run s' rest'
termination_by cs.length
decreasing_by
  have h₁ := (s.group.flags.skip_suffix cs).length_le
  have h₂ := (readToken?_suffix _hread).length_le
  rw [_hskip, List.length_cons] at h₁
  omega

theorem run_nil {s : State} {cs : List Char} (h : s.group.flags.skip cs = []) :
    run s cs = some s := by
  rw [run]
  split
  · rfl
  · next heq => rw [h] at heq; cases heq

theorem run_cons {s : State} {c : Char} {cs rest : List Char}
    (h : s.group.flags.skip cs = c :: rest) :
    run s cs = (s.read? c rest).bind fun r => (s.step? r.1).bind fun s' => run s' r.2 := by
  rw [run]
  split
  · next heq => rw [h] at heq; cases heq
  · next c' rest' heq =>
    rw [h] at heq
    obtain ⟨rfl, rfl⟩ := List.cons.inj heq
    split
    · next hr => simp [hr]
    · next hr =>
      rw [hr, Option.bind_some]
      split <;> simp [*]

/-- The regular expression that a pattern stands for, if it is well formed. -/
def Regexp.parse? (pattern : List Char) : Option Regexp :=
  (run .start pattern).bind State.finish?

end DashQuery.Pattern

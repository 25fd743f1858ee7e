import DashQuery.Pattern.Parser
import DashQuery.Proofs.Search

/-!
# The bounds of repetitions that are read

The reader of patterns refuses counts that are out of order, so in every expression that it returns
the lower bound of a repetition is at most its upper bound.  Every token is in order
(`readToken?_ordered`), and the machine keeps a property of the parts it holds if every token keeps
it and it is handed on to what is put together from them (`State.Holds.step?`).

* `run_preserves`: what every step keeps, a run keeps.
* `parse?_ordered`: the bounds in an expression that is read are in order.
* `search_parse?_iff`: a search for an expression that is read is right.
-/

namespace DashQuery.Pattern

/-- What every step of the machine keeps, a run keeps.  What is read is part of the text. -/
theorem run_preserves {P : State → Prop} {text : List Char}
    (hstep : ∀ {s s' : State} {c : Char} {cs rest : List Char} {t : Token},
      P s → c :: cs <:+ text → s.read? c cs = some (t, rest) → s.step? t = some s' → P s')
    {s s' : State} (hs : P s) (h : run s text = some s') : P s' := by
  suffices ∀ cs, cs <:+ text → run s cs = some s' → P s' from this text List.suffix_rfl h
  clear h
  intro cs hcs h
  fun_induction run s cs with
  | case1 s cs hskip => cases h; exact hs
  | case2 => cases h
  | case3 => cases h
  | case4 s cs c rest hskip token rest' hread next hnext ih =>
    have hsuffix : c :: rest <:+ text := (hskip ▸ s.group.flags.skip_suffix cs).trans hcs
    have hrest : rest' <:+ text :=
      (readToken?_suffix hread).trans ((List.suffix_cons c rest).trans hsuffix)
    exact ih (hstep hs hsuffix hread hnext) hrest h

/-! ## Tokens -/

/-- The bounds in a token are in order. -/
def Token.Ordered : Token → Prop
  | .leaf r => r.Ordered
  | .repetition lo hi? => ∀ hi, hi? = some hi → lo ≤ hi
  | _ => True

theorem counts?_ordered {text : List Char} {lo hi : Nat} (h : counts? text = some (lo, some hi)) :
    lo ≤ hi := by
  unfold counts? at h
  split at h
  · obtain ⟨n, -, h⟩ := Option.map_eq_some_iff.1 h
    cases h
    exact Nat.le_refl _
  · obtain ⟨n, -, h⟩ := Option.map_eq_some_iff.1 h
    cases h
  · split at h
    · split at h
      · cases h; assumption
      · cases h
    · cases h

theorem readBraces?_ordered {f : Flags} {cs rest : List Char} {t : Token}
    (h : readBraces? f cs = some (t, rest)) : t.Ordered := by
  unfold readBraces? at h
  split at h
  · cases h
  · obtain ⟨⟨lo, hi?⟩, hcounts, ht⟩ := Option.map_eq_some_iff.1 h
    cases ht
    intro hi hhi
    exact counts?_ordered (hhi ▸ hcounts)

theorem readGroup?_ordered {f : Flags} {cs rest : List Char} {t : Token}
    (h : readGroup? f cs = some (t, rest)) : t.Ordered := by
  have hname {cs : List Char} (h : readGroupName? f cs = some (t, rest)) : t.Ordered := by
    simp only [readGroupName?, Option.bind_eq_bind, Option.bind_eq_some_iff] at h
    obtain ⟨⟨name, r⟩, -, h⟩ := h
    split at h
    · cases h; trivial
    · cases h
  unfold readGroup? at h
  split at h
  · exact hname h
  · split at h
    · cases h
    · cases h
    · exact hname h
  · unfold readFlags? at h
    split at h
    · split at h
      · cases h; trivial
      · split at h
        · cases h
        · cases h; trivial
      · cases h
    · cases h
  · cases h; trivial

/-- An opening bracket is read as such. -/
theorem readOpenSet_fst (f : Flags) (cs : List Char) :
    ∃ negated, (readOpenSet f cs).1 = .openSet negated := by
  unfold readOpenSet
  split
  · exact ⟨true, rfl⟩
  · exact ⟨false, rfl⟩

theorem readOutside?_ordered {f : Flags} {c : Char} {cs rest : List Char} {t : Token}
    (h : readOutside? f c cs = some (t, rest)) : t.Ordered := by
  unfold readOutside? at h
  split at h
  · exact readGroup?_ordered h
  · cases h; trivial
  · cases h; trivial
  · obtain ⟨negated, hset⟩ := readOpenSet_fst f cs
    obtain rfl : Token.openSet negated = t := by rw [← hset, Option.some.inj h]
    trivial
  · cases h; exact fun hi h => by cases h; decide
  · cases h; exact fun hi h => by cases h
  · cases h; exact fun hi h => by cases h
  · exact readBraces?_ordered h
  · obtain ⟨s, -, h⟩ := Option.map_eq_some_iff.1 h
    cases h; trivial
  · cases h; trivial
  · cases h; trivial
  · split at h <;> cases h <;> trivial
  · cases h; trivial

/-- Whether a token can stand inside brackets. -/
def Token.standsInside : Token → Bool
  | .openSet _ | .closeSet | .frontDash | .member _ | .setOp _ => true
  | _ => false

theorem readMember?_eq_member {f : Flags} {c : Char} {cs rest : List Char} {t : Token}
    (h : readMember? f c cs = some (t, rest)) : ∃ s, t = .member s := by
  simp only [readMember?, Option.bind_eq_bind, Option.bind_eq_some_iff] at h
  obtain ⟨⟨low, r⟩, -, h⟩ := h
  have single {s? : Option CharSet} {r : List Char}
      (h : s?.map (fun s => (Token.member s, r)) = some (t, rest)) : ∃ s, t = .member s := by
    obtain ⟨s, -, ht⟩ := Option.map_eq_some_iff.1 h
    exact ⟨s, (Prod.mk.inj ht).1.symm⟩
  split at h
  · split at h
    · exact single h
    · split at h
      · cases h
      · obtain ⟨⟨high, r'⟩, -, h⟩ := Option.bind_eq_some_iff.1 h
        exact single h
  · exact single h

theorem readInside?_standsInside {f : Flags} {c : Char} {cs rest : List Char} {t : Token}
    (h : readInside? f c cs = some (t, rest)) : t.standsInside = true := by
  have openSet {cs : List Char} (h : readOpenSet f cs = (t, rest)) : t.standsInside = true := by
    obtain ⟨negated, hset⟩ := readOpenSet_fst f cs
    obtain rfl : Token.openSet negated = t := by rw [← hset, h]
    rfl
  unfold readInside? at h
  split at h
  · split at h
    · obtain ⟨s, -, h⟩ := Option.map_eq_some_iff.1 h
      cases h; rfl
    · exact openSet (Option.some.inj h)
  · exact openSet (Option.some.inj h)
  · cases h; rfl
  · cases h; rfl
  · cases h; rfl
  · cases h; rfl
  · obtain ⟨s, rfl⟩ := readMember?_eq_member h
    rfl

/-- Inside brackets only tokens of sets are read. -/
theorem readToken?_standsInside {position : Position} {f : Flags} {c : Char}
    {cs rest : List Char} {t : Token} (hposition : position ≠ .outside)
    (h : readToken? position f c cs = some (t, rest)) : t.standsInside = true := by
  unfold readToken? at h
  split at h
  · exact absurd rfl hposition
  · split at h
    · cases h; rfl
    · split at h
      · cases h; rfl
      · exact readInside?_standsInside h
  · split at h
    · cases h; rfl
    · exact readInside?_standsInside h
  · exact readInside?_standsInside h

theorem Token.ordered_of_standsInside {t : Token} (h : t.standsInside = true) : t.Ordered := by
  cases t <;> trivial

theorem readToken?_ordered {position : Position} {f : Flags} {c : Char} {cs rest : List Char}
    {t : Token} (h : readToken? position f c cs = some (t, rest)) : t.Ordered := by
  by_cases hposition : position = .outside
  · subst hposition
    exact readOutside?_ordered h
  · exact Token.ordered_of_standsInside (readToken?_standsInside hposition h)

/-! ## The machine -/

/-- A property of expressions that what is put together from them has too. -/
structure Regexp.Hereditary (P : Regexp → Prop) : Prop where
  empty : P .empty
  concat : ∀ {p q : Regexp}, P p → P q → P (.concat p q)
  alt : ∀ {p q : Regexp}, P p → P q → P (.alt p q)
  group : ∀ {p : Regexp}, P p → P (.group p)

/-- What a token leaves has the property. -/
def Token.Keeps (P : Regexp → Prop) : Token → Prop
  | .leaf r => P r
  | .repetition lo hi? => ∀ p, P p → P (.repeated p lo hi?)
  | .closeSet => ∀ s, P (.set s)
  | _ => True

/-- The parts that have been read of a group have the property. -/
structure Group.Holds (P : Regexp → Prop) (g : Group) : Prop where
  branches : ∀ b ∈ g.branches, P b.value
  items : ∀ r ∈ g.items, P r.value

/-- All parts that have been read have the property. -/
structure State.Holds (P : Regexp → Prop) (s : State) : Prop where
  group : s.group.Holds P
  outer : ∀ g ∈ s.outer, g.Holds P

section Hereditary

variable {P : Regexp → Prop}

theorem Regexp.Hereditary.ofReversed (hP : Hereditary P) {items : List Regexp}
    (h : ∀ r ∈ items, P r) : P (ofReversed items) := by
  suffices ∀ rest : Regexp, P rest → P (items.foldl (fun rest r => .concat r rest) rest) from
    this .empty hP.empty
  induction items with
  | nil => exact fun _ hrest => hrest
  | cons r items ih =>
    rw [List.forall_mem_cons] at h
    exact fun rest hrest => ih h.2 (.concat r rest) (hP.concat h.1 hrest)

theorem Regexp.Hereditary.choice (hP : Hereditary P) {branch : Regexp} {earlier : List Regexp}
    (hb : P branch) (h : ∀ r ∈ earlier, P r) : P (choice branch earlier) := by
  unfold Regexp.choice
  induction earlier generalizing branch with
  | nil => exact hb
  | cons r earlier ih =>
    rw [List.forall_mem_cons] at h
    exact ih (hP.alt h.1 hb) h.2

namespace Group

theorem holds_start (flags : Flags) (captures : Bool) : (start flags captures).Holds P :=
  ⟨List.forall_mem_nil _, List.forall_mem_nil _⟩

variable {g : Group}

theorem Holds.push (hg : g.Holds P) {item : Part Regexp} (h : P item.value) :
    (g.push item).Holds P := ⟨hg.branches, List.forall_mem_cons.2 ⟨h, hg.items⟩⟩

theorem Holds.branch (hP : Regexp.Hereditary P) (hg : g.Holds P) : P g.branch.value :=
  hP.ofReversed (List.forall_mem_map.2 hg.items)

theorem Holds.contents (hP : Regexp.Hereditary P) (hg : g.Holds P) : P g.contents.value :=
  hP.choice (hg.branch hP) (List.forall_mem_map.2 hg.branches)

theorem Holds.close (hP : Regexp.Hereditary P) (hg : g.Holds P) : P g.close.value := by
  unfold Group.close
  dsimp only
  split
  · exact hP.group (hg.contents hP)
  · exact hg.contents hP

end Group

namespace State

variable {s s' : State}

theorem Holds.changeSet? {change : OpenSet → OpenSet} (hs : s.Holds P)
    (h : s.changeSet? change = some s') : s'.Holds P := by
  unfold State.changeSet? at h
  split at h
  · cases h
  · cases h; exact ⟨hs.group, hs.outer⟩

/-- What every token keeps, the machine keeps. -/
theorem Holds.step? (hP : Regexp.Hereditary P) {t : Token} (ht : t.Keeps P) (hs : s.Holds P)
    (h : s.step? t = some s') : s'.Holds P := by
  cases t with
  | leaf r => cases h; exact ⟨hs.group.push ht, hs.outer⟩
  | repetition lo hi? =>
    dsimp only [State.step?] at h
    split at h
    · next r items _ hitems =>
      cases h
      have := hs.group.items
      rw [hitems, List.forall_mem_cons] at this
      exact ⟨⟨hs.group.branches, List.forall_mem_cons.2 ⟨ht _ this.1, this.2⟩⟩, hs.outer⟩
    · cases h
  | openGroup flags captures name? =>
    dsimp only [State.step?] at h
    split at h
    · cases h
    · cases h
      exact ⟨Group.holds_start _ _, List.forall_mem_cons.2 ⟨hs.group, hs.outer⟩⟩
  | closeGroup =>
    dsimp only [State.step?] at h
    split at h
    · cases h
    · next g outer houter =>
      cases h
      have := hs.outer
      rw [houter, List.forall_mem_cons] at this
      exact ⟨this.1.push (hs.group.close hP), this.2⟩
  | setFlags flags =>
    cases h
    have hempty : (s.group.push ⟨.empty, 0⟩).Holds P := hs.group.push hP.empty
    exact ⟨⟨hempty.branches, hempty.items⟩, hs.outer⟩
  | bar =>
    cases h
    exact ⟨⟨List.forall_mem_cons.2 ⟨hs.group.branch hP, hs.group.branches⟩, List.forall_mem_nil _⟩,
      hs.outer⟩
  | openSet negated => cases h; exact ⟨hs.group, hs.outer⟩
  | closeSet =>
    dsimp only [State.step?, State.closeSet?] at h
    split at h
    · cases h
    · split at h
      · cases h
      · cases h; exact ⟨hs.group.push (ht _), hs.outer⟩
      · cases h; exact ⟨hs.group, hs.outer⟩
  | frontDash => exact hs.changeSet? h
  | member m => exact hs.changeSet? h
  | setOp op => exact hs.changeSet? h

/-- What has been read to the end has the property of its parts. -/
theorem Holds.finish? (hP : Regexp.Hereditary P) (hs : s.Holds P) {r : Regexp}
    (h : s.finish? = some r) : P r := by
  unfold State.finish? at h
  dsimp only at h
  split at h
  · cases h; exact hs.group.contents hP
  · cases h

end State

end Hereditary

/-! ## Bounds -/

theorem Regexp.hereditary_ordered : Regexp.Hereditary Regexp.Ordered where
  empty := trivial
  concat hp hq := ⟨hp, hq⟩
  alt hp hq := ⟨hp, hq⟩
  group hp := hp

theorem Token.Ordered.keeps {t : Token} (h : t.Ordered) : t.Keeps Regexp.Ordered := by
  cases t with
  | leaf r => exact h
  | repetition lo hi? => exact fun p hp => ⟨hp, h⟩
  | closeSet => exact fun s => trivial
  | _ => trivial

/-- The bounds in an expression that is read are in order. -/
theorem Regexp.parse?_ordered {cs : List Char} {r : Regexp} (h : parse? cs = some r) :
    r.Ordered := by
  obtain ⟨s, hs, h⟩ := Option.bind_eq_some_iff.1 h
  have hstart : State.start.Holds Regexp.Ordered :=
    ⟨Group.holds_start _ _, List.forall_mem_nil _⟩
  have hrun : s.Holds Regexp.Ordered :=
    run_preserves (fun hs _ hread hstep =>
      hs.step? hereditary_ordered (readToken?_ordered hread).keeps hstep) hstart hs
  exact hrun.finish? hereditary_ordered h

/-- A search for an expression that is read succeeds exactly when it spans some part of the
text. -/
theorem Regexp.search_parse?_iff {cs text : List Char} {r : Regexp} (h : parse? cs = some r) :
    r.search text = true ↔ ∃ i j, Spans text r i j := search_iff (parse?_ordered h)

end DashQuery.Pattern

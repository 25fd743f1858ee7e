import DashQuery.Proofs.EndSign

/-!
# The end anchor of a pattern

The sign behind a pattern is read as the last item of its last branch, so it anchors that branch
alone.

* `run_append`: what the machine makes of the sign.
* `parse?_append`: a pattern that is read with the sign behind it is well formed without it, and the
  sign anchors its last branch, unless it is hidden by a comment; or it ends in a backslash, and is
  malformed.
-/

namespace DashQuery.Pattern

/-- The assertion that an end sign stands for. -/
def Flags.endAnchor (f : Flags) : Assertion := if f.multiLine then .lineEnd f.crlf else .textEnd

/-- The state after an end sign outside brackets. -/
def State.anchor (s : State) : State :=
  { s with group := s.group.push ⟨.look s.group.flags.endAnchor, 0⟩ }

/-! ## The machine -/

variable {s s' t : State} {cs : List Char}

theorem run_empty (s : State) : run s [] = some s := run_nil s.group.flags.skip_nil

/-- A token of a set leaves brackets open, unless it closes them. -/
theorem sets_ne_nil_of_step {token : Token} (hinside : token.standsInside = true)
    (hclose : token ≠ .closeSet) (h : s.step? token = some s') : s'.sets ≠ [] := by
  have change {change : OpenSet → OpenSet} (h : s.changeSet? change = some s') : s'.sets ≠ [] := by
    unfold State.changeSet? at h
    split at h <;> cases h
    exact List.cons_ne_nil _ _
  cases token with
  | openSet negated => cases h; exact List.cons_ne_nil _ _
  | closeSet => exact absurd rfl hclose
  | frontDash => exact change h
  | member m => exact change h
  | setOp op => exact change h
  | _ => cases hinside

/-- The sign inside brackets is a member. -/
theorem readToken?_sign {position : Position} {f : Flags} {token : Token} {rest : List Char}
    (hposition : position ≠ .outside) (h : readToken? position f '$' [] = some (token, rest)) :
    token ≠ .closeSet := by
  have inside (h : readInside? f '$' [] = some (token, rest)) : token ≠ .closeSet := by
    obtain ⟨m, rfl⟩ := readMember?_eq_member (f := f) (c := '$') h
    exact Token.noConfusion
  cases position with
  | outside => exact absurd rfl hposition
  | setFront => exact inside h
  | behindDashes => exact inside h
  | insideSet => exact inside h

/-- A brace that nothing closes cannot be read. -/
theorem run_openBrace {rest : List Char} (hposition : s.position = .outside)
    (h : s.group.flags.skip rest = []) : run s ('\x7b' :: rest ++ ['$']) = none := by
  have hbrace : ∀ tail, s.group.flags.skip ('\x7b' :: tail) = '\x7b' :: tail := fun tail => by
    have hblank : Text.isBlank '\x7b' = false := by decide
    unfold Flags.skip
    split
    · simp [skipComments, hblank]
    · rfl
  have hread : s.read? '\x7b' (rest ++ ['$']) = none := by
    cases hout : s.read? '\x7b' (rest ++ ['$']) with
    | none => rfl
    | some r =>
      unfold State.read? at hout
      rw [hposition] at hout
      have hbraces : readBraces? s.group.flags (rest ++ ['$']) = some r := hout
      obtain ⟨left, hleft, -⟩ := readBraces?_append hbraces
      unfold readBraces? at hleft
      rw [braced?_eq_none_of_skip h] at hleft
      cases hleft
  rw [List.cons_append, run_cons (hbrace _), hread, Option.bind_none]

/-- **The sign in the machine.**  If a text with an end sign behind it is read to its end, so is the
text alone, and the sign adds its anchor or is hidden by a comment; or the text ends in a backslash,
with which nothing can be read. -/
theorem run_append {s t : State} {cs : List Char} (h : run s (cs ++ ['$']) = some t)
    (ht : t.sets = []) :
    (∃ s', run s cs = some s' ∧ (t = s' ∨ t = s'.anchor)) ∨
      run s cs = none ∧ ['\\'] <:+ cs := by
  obtain hskip | ⟨hskip, hskip'⟩ := s.group.flags.skip_append cs
  · cases hcs : s.group.flags.skip cs with
    | nil =>
      -- the sign is the last token
      rw [hcs] at hskip
      obtain ⟨⟨token, rest⟩, hread, h⟩ := Option.bind_eq_some_iff.1 ((run_cons hskip).symm.trans h)
      obtain ⟨s₁, hstep, hrun⟩ := Option.bind_eq_some_iff.1 h
      obtain rfl : rest = [] := List.suffix_nil.1 (readToken?_suffix hread)
      cases (run_empty s₁).symm.trans hrun
      refine .inl ⟨s, run_nil hcs, .inr ?_⟩
      by_cases hposition : s.position = .outside
      · unfold State.read? at hread
        rw [hposition] at hread
        cases hread
        cases hstep
        rfl
      · exact absurd ht (sets_ne_nil_of_step (readToken?_standsInside hposition hread)
          (readToken?_sign hposition hread) hstep)
    | cons c tail =>
      rw [hcs] at hskip
      have htail : tail <:+ cs := Flags.suffix_of_skip hcs
      have hlength : tail.length < cs.length := by
        have := (hcs ▸ s.group.flags.skip_suffix cs).length_le
        rwa [List.length_cons] at this
      obtain ⟨⟨token, rest'⟩, hread, h⟩ := Option.bind_eq_some_iff.1 ((run_cons hskip).symm.trans h)
      obtain ⟨s₁, hstep, hrun⟩ := Option.bind_eq_some_iff.1 h
      obtain ⟨rest, hout, htrails⟩ | ⟨hposition, rfl, hclose⟩ | ⟨hposition, rfl, rfl, -⟩ |
        ⟨hposition, r, _, rfl, ⟨brace, rfl, hbrace⟩, rfl⟩ := readToken?_append hread
      · -- the same token is read from the text alone
        have hsame : run s cs = run s₁ rest := by
          rw [run_cons hcs, State.read?, hout, Option.bind_some, hstep, Option.bind_some]
        have hsuffix : rest <:+ tail := readToken?_suffix hout
        have hshorter : rest.length < cs.length := Nat.lt_of_le_of_lt hsuffix.length_le hlength
        rw [hsame]
        obtain rfl | ⟨rfl, rfl⟩ := htrails
        · exact (run_append hrun ht).imp_right fun ⟨hnone, hback⟩ =>
            ⟨hnone, hback.trans (hsuffix.trans htail)⟩
        · exact .inl ⟨s₁, run_empty s₁, .inl (Option.some.inj (hrun.symm.trans (run_empty s₁)))⟩
      · -- a set takes the sign and stays open
        cases (run_empty s₁).symm.trans hrun
        exact absurd ht (sets_ne_nil_of_step (readToken?_standsInside hposition hread) hclose hstep)
      · -- a backslash takes the sign
        refine .inr ⟨?_, hcs ▸ s.group.flags.skip_suffix cs⟩
        rw [run_cons hcs, State.read?, hposition]
        rfl
      · -- a word edge is read, but not the brace behind it
        cases hstep
        have hnone := run_openBrace (s := { s with group := s.group.push ⟨r, 0⟩ }) hposition hbrace
        cases hnone.symm.trans hrun
  · rw [run_nil hskip'] at h
    cases h
    exact .inl ⟨s, run_nil hskip, .inl rfl⟩
termination_by cs.length

/-! ## The tree -/

variable {text : List Char} {i j k : Nat}

/-- The expression with an assertion behind its last branch. -/
def Regexp.anchorLast (a : Assertion) : Regexp → Regexp
  | alt p q => alt p (q.anchorLast a)
  | r => concat r (look a)

namespace Regexp

theorem anchorLast_choice (a : Assertion) (branch : Regexp) (earlier : List Regexp) :
    (choice branch earlier).anchorLast a = choice (branch.anchorLast a) earlier := by
  unfold choice
  induction earlier generalizing branch with
  | nil => rfl
  | cons p earlier ih => exact ih (alt p branch)

/-- A row of items is one branch. -/
theorem anchorLast_ofReversed (a : Assertion) (items : List Regexp) :
    (ofReversed items).anchorLast a = concat (ofReversed items) (look a) := by
  suffices ∀ rest : Regexp, rest.anchorLast a = concat rest (look a) →
      (items.foldl (fun rest r => concat r rest) rest).anchorLast a =
        concat (items.foldl (fun rest r => concat r rest) rest) (look a) from this empty rfl
  induction items with
  | nil => exact fun _ hrest => hrest
  | cons r items ih => exact fun rest _ => ih (concat r rest) rfl

theorem spans_choice_iff {branch : Regexp} {earlier : List Regexp} :
    Spans text (choice branch earlier) i j ↔
      Spans text branch i j ∨ ∃ p ∈ earlier, Spans text p i j := by
  unfold choice
  induction earlier generalizing branch with
  | nil => simp
  | cons p earlier ih =>
    simp only [List.foldl_cons, ih, spans_alt_iff, List.mem_cons, exists_eq_or_imp]
    rw [or_comm (a := Spans text p i j), or_assoc]

/-- Items that are put in front of a rest. -/
theorem spans_foldl_concat_iff {items : List Regexp} (rest : Regexp) :
    Spans text (items.foldl (fun rest r => concat r rest) rest) i k ↔
      ∃ j, Spans text (ofReversed items) i j ∧ Spans text rest j k := by
  induction items generalizing rest k with
  | nil =>
    refine ⟨fun h => ⟨i, ?_, h⟩, ?_⟩
    · have hrest : Forward text (Spans text rest) := spans_forward rest
      exact .empty (Nat.le_trans (hrest.le h) (hrest.le_length h))
    · rintro ⟨j, h, hrest⟩
      rwa [(spans_empty_iff.1 h).1]
  | cons r items ih =>
    constructor
    · intro h
      obtain ⟨l, hitems, h⟩ := (ih _).1 h
      obtain ⟨m, hr, hrest⟩ := spans_concat_iff.1 h
      have hm := (spans_forward r).le_length hr
      exact ⟨m, (ih _).2 ⟨l, hitems, .concat hr (.empty hm)⟩, hrest⟩
    · rintro ⟨m, h, hrest⟩
      obtain ⟨l, hitems, h⟩ := (ih _).1 h
      obtain ⟨_, hr, hempty⟩ := spans_concat_iff.1 h
      obtain ⟨rfl, -⟩ := spans_empty_iff.1 hempty
      exact (ih _).2 ⟨l, hitems, .concat hr hrest⟩

/-- The last item of a row spans the end of what the row spans. -/
theorem spans_ofReversed_cons_iff {items : List Regexp} {r : Regexp} :
    Spans text (ofReversed (r :: items)) i k ↔ Spans text (concat (ofReversed items) r) i k := by
  refine (spans_foldl_concat_iff (concat r empty)).trans (spans_concat_iff.trans ?_).symm
  refine exists_congr fun j => and_congr_right fun _ => ⟨fun h => ?_, fun h => ?_⟩
  · exact .concat h (.empty ((spans_forward r).le_length h))
  · obtain ⟨_, hr, hempty⟩ := spans_concat_iff.1 h
    obtain ⟨rfl, -⟩ := spans_empty_iff.1 hempty
    exact hr

end Regexp

/-- The contents of a group with the anchor behind them are the contents with their last branch
anchored. -/
theorem spans_contents_push_iff (g : Group) (a : Assertion) (depth : Nat) :
    Spans text (g.push ⟨.look a, depth⟩).contents.value i j ↔
      Spans text (g.contents.value.anchorLast a) i j := by
  change Spans text (.choice (.ofReversed (.look a :: g.items.map (·.value))) _) i j ↔
    Spans text (Regexp.anchorLast a (.choice (.ofReversed (g.items.map (·.value)))
      (g.branches.map (·.value)))) i j
  rw [Regexp.anchorLast_choice, Regexp.anchorLast_ofReversed, Regexp.spans_choice_iff,
    Regexp.spans_choice_iff]
  exact or_congr_left Regexp.spans_ofReversed_cons_iff

/-! ## Depth -/

theorem foldl_max_le {depths : List Nat} {a b : Nat} (h : a ≤ b) :
    depths.foldl max a ≤ depths.foldl max b := by
  induction depths generalizing a b with
  | nil => exact h
  | cons d depths ih => exact ih (by omega)

theorem rowDepth_le_cons (depths : List Nat) (d : Nat) :
    rowDepth depths ≤ rowDepth (d :: depths) := by
  match depths with
  | [] => exact Nat.zero_le _
  | [e] =>
    simp only [rowDepth, List.foldl_cons, List.foldl_nil]
    omega
  | e :: e' :: depths => exact Nat.succ_le_succ (foldl_max_le (by omega))

theorem rowDepth_cons_le {depths : List Nat} {a b : Nat} (h : a ≤ b) :
    rowDepth (a :: depths) ≤ rowDepth (b :: depths) := by
  cases depths with
  | nil => exact h
  | cons d depths => exact Nat.succ_le_succ (foldl_max_le (by omega))

theorem depth_contents_le_push (g : Group) (item : Part Regexp) :
    g.contents.depth ≤ (g.push item).contents.depth :=
  rowDepth_cons_le (rowDepth_le_cons _ _)

/-! ## Reading to the end -/

theorem State.finish?_eq_some_iff {s : State} {r : Regexp} :
    s.finish? = some r ↔
      s.outer = [] ∧ s.sets = [] ∧ s.group.contents.depth ≤ maxDepth ∧
        s.group.contents.value = r := by
  simp [finish?, and_assoc]

/-- **The end sign of a pattern.**  If a pattern is read with a sign behind it, it is well formed
and the sign anchors its last branch, unless it is hidden by a comment; or it ends in a backslash
and is malformed. -/
theorem Regexp.parse?_append {cs : List Char} {t : Regexp} (h : parse? (cs ++ ['$']) = some t) :
    (∃ r, parse? cs = some r ∧ (t = r ∨ ∃ f : Flags, ∀ text i j,
      Spans text t i j ↔ Spans text (r.anchorLast f.endAnchor) i j)) ∨
      parse? cs = none ∧ ['\\'] <:+ cs := by
  obtain ⟨s, hrun, hfinish⟩ := Option.bind_eq_some_iff.1 h
  obtain ⟨houter, hsets, hdepth, rfl⟩ := State.finish?_eq_some_iff.1 hfinish
  obtain ⟨s', hrun', rfl | rfl⟩ | ⟨hnone, hback⟩ := run_append hrun hsets
  · exact .inl ⟨_, Option.bind_eq_some_iff.2 ⟨s, hrun', hfinish⟩, .inl rfl⟩
  · refine .inl ⟨s'.group.contents.value, Option.bind_eq_some_iff.2 ⟨s', hrun', ?_⟩,
      .inr ⟨s'.group.flags, fun text i j => spans_contents_push_iff _ _ _⟩⟩
    exact State.finish?_eq_some_iff.2
      ⟨houter, hsets, Nat.le_trans (depth_contents_le_push _ _) hdepth, rfl⟩
  · exact .inr ⟨by rw [parse?, hnone, Option.bind_none], hback⟩

end DashQuery.Pattern

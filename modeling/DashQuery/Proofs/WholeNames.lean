import DashQuery.Metric.Rule
import DashQuery.Proofs.EndAnchor

/-!
# Rules that begin with a caret

A rule whose pattern begins with `^` is meant to match whole names: the end anchor is put behind its
text.  But the text is only read afterwards, so the anchor belongs to the last branch of the
pattern, as the caret belongs to the first one.

* `accepts_of_matchesWhole`: a name that the pattern matches whole is accepted.
* `accepts_iff_anchorLast`: a name is accepted exactly when some branch but the last is found
  anywhere in it, or the last branch is found in front of an end.
* `accepts_iff_of_isPinned`: if every branch of what is compiled is anchored at both ends, exactly
  the names that are matched whole are accepted.
* `backslash_of_malformed`: a malformed pattern that is accepted ends in a backslash.
-/

namespace DashQuery.Pattern

variable {text : List Char} {i j : Nat}

/-! ## Anchors in a tree -/

theorem isNone_before_iff (hi : i ≤ text.length) : (around text i).1.isNone = true ↔ i = 0 := by
  cases i with
  | zero => simp [around]
  | succ i => simp [around, Nat.lt_of_succ_le hi]

theorem isNone_after_iff (hi : i ≤ text.length) :
    (around text i).2.isNone = true ↔ i = text.length := by
  simp only [around, Option.isNone_iff_eq_none, List.getElem?_eq_none_iff]
  omega

/-- An end anchor holds at the end of every text. -/
theorem Flags.endAnchor_holds (f : Flags) (before : Option Char) :
    f.endAnchor.holds before none = true := by
  obtain ⟨_, multiLine, _, _, crlf, _⟩ := f
  cases multiLine <;> cases crlf <;> rfl

namespace Regexp

/-- With its last branch anchored an expression spans less. -/
theorem spans_of_anchorLast {a : Assertion} {r : Regexp}
    (h : Spans text (r.anchorLast a) i j) : Spans text r i j := by
  fun_induction anchorLast a r with
  | case1 p q ih =>
    obtain h | h := spans_alt_iff.1 h
    · exact .altLeft h
    · exact .altRight (ih h)
  | case2 r _ =>
    obtain ⟨k, hr, hlook⟩ := spans_concat_iff.1 h
    rwa [← (spans_look_iff.1 hlook).1]

/-- What is spanned up to a place where the anchor holds, is spanned with the anchor. -/
theorem spans_anchorLast {a : Assertion} {r : Regexp} (h : Spans text r i j)
    (ha : a.holds (around text j).1 (around text j).2 = true) :
    Spans text (r.anchorLast a) i j := by
  fun_induction anchorLast a r with
  | case1 p q ih =>
    obtain h | h := spans_alt_iff.1 h
    · exact .altLeft h
    · exact .altRight (ih h)
  | case2 r _ => exact .concat h (.look ((spans_forward r).le_length h) ha)

theorem spans_anchorLast_whole {f : Flags} {r : Regexp} (h : Spans text r i text.length) :
    Spans text (r.anchorLast f.endAnchor) i text.length := by
  refine spans_anchorLast h ?_
  have hafter : (around text text.length).2 = none := by simp [around]
  rw [hafter]
  exact f.endAnchor_holds _

/-- Whether every branch begins with an anchor at the start of the text. -/
def startsPinned : Regexp → Bool
  | look a => a == .textStart
  | concat p q => p.startsPinned || (p.isBlank && q.startsPinned)
  | alt p q => p.startsPinned && q.startsPinned
  | group p => p.startsPinned
  | repeated p lo _ => lo != 0 && p.startsPinned
  | _ => false

/-- Whether every branch ends with an anchor at the end of the text. -/
def endsPinned : Regexp → Bool
  | look a => a == .textEnd
  | concat p q => q.endsPinned || (q.isBlank && p.endsPinned)
  | alt p q => p.endsPinned && q.endsPinned
  | group p => p.endsPinned
  | repeated p lo _ => lo != 0 && p.endsPinned
  | _ => false

theorem eq_zero_of_startsPinned {r : Regexp} (hr : r.startsPinned = true)
    (h : Spans text r i j) : i = 0 := by
  induction r generalizing i j with
  | empty => cases hr
  | set s => cases hr
  | look a =>
    obtain rfl : a = .textStart := eq_of_beq hr
    obtain ⟨-, hi, hstart⟩ := spans_look_iff.1 h
    exact (isNone_before_iff hi).1 hstart
  | concat p q hp hq =>
    obtain ⟨k, hk, h⟩ := spans_concat_iff.1 h
    simp only [startsPinned, Bool.or_eq_true, Bool.and_eq_true] at hr
    obtain hr | ⟨hblank, hr⟩ := hr
    · exact hp hr hk
    · exact (eq_of_isBlank hblank hk).trans (hq hr h)
  | alt p q hp hq =>
    rw [startsPinned, Bool.and_eq_true] at hr
    exact (spans_alt_iff.1 h).elim (hp hr.1) (hq hr.2)
  | group p hp => exact hp hr (spans_group_iff.1 h)
  | repeated p lo hi? hp =>
    rw [startsPinned, Bool.and_eq_true, bne_iff_ne] at hr
    obtain ⟨n, hn, -, h⟩ := spans_repeated_iff.1 h
    obtain ⟨n, rfl⟩ := Nat.exists_eq_succ_of_ne_zero (n := n) (by omega)
    obtain ⟨k, hk, -⟩ := h
    exact hp hr.2 hk

theorem eq_length_of_endsPinned {r : Regexp} (hr : r.endsPinned = true)
    (h : Spans text r i j) : j = text.length := by
  induction r generalizing i j with
  | empty => cases hr
  | set s => cases hr
  | look a =>
    obtain rfl : a = .textEnd := eq_of_beq hr
    obtain ⟨rfl, hi, hend⟩ := spans_look_iff.1 h
    exact (isNone_after_iff hi).1 hend
  | concat p q hp hq =>
    obtain ⟨k, hk, h⟩ := spans_concat_iff.1 h
    simp only [endsPinned, Bool.or_eq_true, Bool.and_eq_true] at hr
    obtain hr | ⟨hblank, hr⟩ := hr
    · exact hq hr h
    · exact (eq_of_isBlank hblank h).symm.trans (hp hr hk)
  | alt p q hp hq =>
    rw [endsPinned, Bool.and_eq_true] at hr
    exact (spans_alt_iff.1 h).elim (hp hr.1) (hq hr.2)
  | group p hp => exact hp hr (spans_group_iff.1 h)
  | repeated p lo hi? hp =>
    rw [endsPinned, Bool.and_eq_true, bne_iff_ne] at hr
    obtain ⟨n, hn, -, h⟩ := spans_repeated_iff.1 h
    obtain ⟨n, rfl⟩ := Nat.exists_eq_succ_of_ne_zero (n := n) (by omega)
    obtain ⟨k, -, h⟩ := (times_add (n := 1) (spans_forward p)).1 h
    exact hp hr.2 ((times_one (spans_forward p)).1 h)

end Regexp

end DashQuery.Pattern

namespace DashQuery.Metric

open DashQuery.Pattern

/-- The pattern as it is written is well formed and matches the name from its first to its last
character. -/
def MatchesWhole (pattern name : String) : Prop :=
  ∃ r, Regexp.parse? pattern.toList = some r ∧ Spans name.toList r 0 name.toList.length

namespace Matcher

/-- Whether every branch of a compiled expression is anchored at both ends. -/
def isPinned : Matcher → Bool
  | regexp r => r.startsPinned && r.endsPinned
  | _ => false

variable {pattern : String} {m : Matcher}

/-- A pattern that begins with a caret is compiled with an end sign behind it. -/
theorem exists_regexp_of_caret (hcaret : pattern.toList.head? = some '^')
    (hm : ofPattern? pattern = some m) :
    ∃ t, Regexp.parse? (pattern.toList ++ ['$']) = some t ∧ m = regexp t := by
  unfold ofPattern? at hm
  split at hm
  · next hstar => rw [hstar] at hcaret; exact absurd hcaret (by decide)
  · split at hm
    · obtain ⟨t, ht, rfl⟩ := Option.map_eq_some_iff.1 hm
      exact ⟨t, (Option.filter_eq_some_iff.1 ht).1, rfl⟩
    · next hcs =>
      cases hpattern : pattern.toList with
      | nil => rw [hpattern] at hcaret; cases hcaret
      | cons c cs =>
        rw [hpattern] at hcaret hcs
        cases hcaret
        exact absurd rfl (hcs cs)

/-- What is accepted is found somewhere in the name. -/
theorem accepts_regexp_iff {cs : List Char} {t : Regexp} (ht : Regexp.parse? cs = some t)
    (name : List Char) : (regexp t).accepts name = true ↔ ∃ i j, Spans name t i j :=
  Regexp.search_parse?_iff ht

/-- A name is accepted exactly when some branch but the last is found anywhere in it, or the last
branch in front of an end.  Only a comment can take the anchor away from the last branch. -/
theorem accepts_iff_anchorLast (hcaret : pattern.toList.head? = some '^')
    (hm : ofPattern? pattern = some m) {r : Regexp}
    (hr : Regexp.parse? pattern.toList = some r) :
    (∀ name, m.accepts name = true ↔ ∃ i j, Spans name r i j) ∨
      ∃ f : Flags, ∀ name, m.accepts name = true ↔
        ∃ i j, Spans name (r.anchorLast f.endAnchor) i j := by
  obtain ⟨t, ht, rfl⟩ := exists_regexp_of_caret hcaret hm
  obtain ⟨r', hr', h⟩ | ⟨hnone, -⟩ := Regexp.parse?_append ht
  · cases hr.symm.trans hr'
    obtain rfl | ⟨f, hspans⟩ := h
    · exact .inl (accepts_regexp_iff ht)
    · exact .inr ⟨f, fun name => by simp only [accepts_regexp_iff ht, hspans]⟩
  · rw [hnone] at hr
    cases hr

/-- A malformed pattern that is accepted ends in a backslash, which takes the anchor. -/
theorem backslash_of_malformed (hcaret : pattern.toList.head? = some '^')
    (hm : ofPattern? pattern = some m) (hnone : Regexp.parse? pattern.toList = none) :
    ['\\'] <:+ pattern.toList := by
  obtain ⟨t, ht, -⟩ := exists_regexp_of_caret hcaret hm
  obtain ⟨r, hr, -⟩ | ⟨-, hback⟩ := Regexp.parse?_append ht
  · rw [hnone] at hr
    cases hr
  · exact hback

/-- A name that the pattern matches whole is accepted. -/
theorem accepts_of_matchesWhole (hcaret : pattern.toList.head? = some '^')
    (hm : ofPattern? pattern = some m) {name : String} (h : MatchesWhole pattern name) :
    m.accepts name.toList = true := by
  obtain ⟨r, hr, hspans⟩ := h
  obtain hlaw | ⟨f, hlaw⟩ := accepts_iff_anchorLast hcaret hm hr
  · exact (hlaw _).2 ⟨0, _, hspans⟩
  · exact (hlaw _).2 ⟨0, _, Regexp.spans_anchorLast_whole hspans⟩

/-- If every branch of what is compiled is anchored at both ends, exactly the names that are matched
whole are accepted. -/
theorem accepts_iff_of_isPinned (hcaret : pattern.toList.head? = some '^')
    (hm : ofPattern? pattern = some m) (hwell : Regexp.parse? pattern.toList ≠ none)
    (hpinned : m.isPinned = true) (name : String) :
    m.accepts name.toList = true ↔ MatchesWhole pattern name := by
  refine ⟨fun h => ?_, accepts_of_matchesWhole hcaret hm⟩
  obtain ⟨t, ht, rfl⟩ := exists_regexp_of_caret hcaret hm
  rw [isPinned, Bool.and_eq_true] at hpinned
  obtain ⟨i, j, hspans⟩ := (accepts_regexp_iff ht _).1 h
  obtain rfl := Regexp.eq_zero_of_startsPinned hpinned.1 hspans
  obtain rfl := Regexp.eq_length_of_endsPinned hpinned.2 hspans
  obtain ⟨r, hr, rfl | ⟨f, hlaw⟩⟩ | ⟨hnone, -⟩ := Regexp.parse?_append ht
  · exact ⟨t, hr, hspans⟩
  · exact ⟨r, hr, Regexp.spans_of_anchorLast ((hlaw _ _ _).1 hspans)⟩
  · exact absurd hnone hwell

end Matcher

/-- **Rules that begin with a caret.**  Such a rule accepts every name that its pattern matches
whole.  What it accepts besides follows from where the end anchor stands: a name in which some
branch but the last is found anywhere, or the last branch in front of an end.  So it accepts exactly
the names that are matched whole if the pattern is well formed and every branch of what is compiled
is anchored at both ends.  A malformed pattern is accepted only if it ends in a backslash, which
takes the anchor. -/
theorem accepts_of_caret {pattern : String} {m : Matcher}
    (hcaret : pattern.toList.head? = some '^') (hm : Matcher.ofPattern? pattern = some m) :
    (∀ name, MatchesWhole pattern name → m.accepts name.toList = true) ∧
      (∀ r, Regexp.parse? pattern.toList = some r →
        (∀ name : List Char, m.accepts name = true ↔ ∃ i j, Spans name r i j) ∨
          ∃ f : Flags, ∀ name : List Char, m.accepts name = true ↔
            ∃ i j, Spans name (r.anchorLast f.endAnchor) i j) ∧
      (Regexp.parse? pattern.toList ≠ none → m.isPinned = true →
        ∀ name, m.accepts name.toList = true ↔ MatchesWhole pattern name) ∧
      (Regexp.parse? pattern.toList = none → ['\\'] <:+ pattern.toList) :=
  ⟨fun _ => Matcher.accepts_of_matchesWhole hcaret hm,
    fun _ => Matcher.accepts_iff_anchorLast hcaret hm,
    Matcher.accepts_iff_of_isPinned hcaret hm,
    Matcher.backslash_of_malformed hcaret hm⟩

/-- Branches inside a group leave both anchors to the whole pattern. -/
theorem accepts_of_caret_grouped :
    "^a(b|c)+".toList.head? = some '^' ∧ ∃ m, Matcher.ofPattern? "^a(b|c)+" = some m ∧
      Regexp.parse? "^a(b|c)+".toList ≠ none ∧ m.isPinned = true ∧
        ∀ name, m.accepts name.toList = true ↔ MatchesWhole "^a(b|c)+" name := by
  have hcaret : "^a(b|c)+".toList.head? = some '^' := by decide
  have hwell : Regexp.parse? "^a(b|c)+".toList ≠ none := by decide +kernel
  have hpinned : (Matcher.ofPattern? "^a(b|c)+").any Matcher.isPinned = true := by
    decide +kernel
  obtain ⟨m, hm, hpinned⟩ := (Option.any_eq_true _ _).1 hpinned
  exact ⟨hcaret, m, hm, hwell, hpinned, (accepts_of_caret hcaret hm).2.2.1 hwell hpinned⟩

/-- Branches of the whole pattern part the anchors: the rule accepts a name that begins with its
first branch, though it is not matched whole. -/
theorem not_matchesWhole_first_branch :
    ∃ m, Matcher.ofPattern? "^a|b" = some m ∧
      ¬ ∀ name, m.accepts name.toList = true ↔ MatchesWhole "^a|b" name := by
  have haccepts : (Matcher.ofPattern? "^a|b").any (·.accepts "ax".toList) = true := by
    decide +kernel
  have hwhole : (Regexp.parse? "^a|b".toList).any (·.matchesWhole "ax".toList) = false := by
    decide +kernel
  obtain ⟨m, hm, haccepts⟩ := (Option.any_eq_true _ _).1 haccepts
  refine ⟨m, hm, fun h => ?_⟩
  obtain ⟨r, hr, hspans⟩ := (h "ax").1 haccepts
  rw [hr, Option.any_some, (Regexp.matchesWhole_iff (Regexp.parse?_ordered hr)).2 hspans] at hwhole
  exact Bool.noConfusion hwhole

end DashQuery.Metric

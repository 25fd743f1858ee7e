import DashQuery.Proofs.Repetition

/-!
# Searching a text

The marks of an expression say which of its matches are under way.  `Marked.Ends m i j` puts that in
terms of places: a match of which some mark at place `i` is a part ends at place `j`.  One step of
the machine moves the marks to the next place and sets those of the matches that begin there
(`ends_move_iff`); a run over the rest of a text finds what is under way or begins later
(`matchesSome_iff`).

* `Regexp.search_iff`: a search succeeds exactly when the expression spans some part of the text.
-/

namespace DashQuery.Pattern

variable {text : List Char} {i j k : Nat}

/-! ## Places -/

/-- The empty text matches at a place exactly when the expression spans nothing but that place. -/
theorem Plain.passes_iff (p : Plain) (hi : i ≤ text.length) :
    p.passes (around text i).1 (around text i).2 = true ↔ p.Spans text i i := by
  induction p with
  | empty => simp [passes, Spans, hi]
  | set s => simp [passes, Spans]
  | look a => simp [passes, Spans, hi]
  | concat p q hp hq =>
    rw [passes, Bool.and_eq_true, hp, hq]
    constructor
    · exact fun h => ⟨i, h⟩
    · rintro ⟨k, hk, h⟩
      obtain rfl := Nat.le_antisymm (p.spans_forward.le hk) (q.spans_forward.le h)
      exact ⟨hk, h⟩
  | alt p q hp hq => rw [passes, Bool.or_eq_true, hp, hq, Spans]
  | loop p hp =>
    have hf : Forward text (p.Spans text) := p.spans_forward
    rw [passes, hp]
    constructor
    · exact fun h => ⟨0, (times_one hf).2 h⟩
    · rintro ⟨n, k, hk, h⟩
      obtain rfl := Nat.le_antisymm (hf.le hk) ((hf.times n).le h)
      exact hk

/-! ## What the marks stand for -/

namespace Marked

/-- The expression without its marks. -/
def erase : Marked → Plain
  | idle p => p
  | hit s => .set s
  | concat p q => .concat p.erase q.erase
  | alt p q => .alt p.erase q.erase
  | loop p => .loop p.erase

/-- A match that is under way at place `i`, the character in front of the place being matched by a
set with a mark, ends at place `j`. -/
def Ends (text : List Char) : Marked → Nat → Nat → Prop
  | idle _, _, _ => False
  | hit _, i, j => i = j ∧ i ≤ text.length
  | concat p q, i, k => (∃ j, p.Ends text i j ∧ q.erase.Spans text j k) ∨ q.Ends text i k
  | alt p q, i, j => p.Ends text i j ∨ q.Ends text i j
  | loop p, i, k => ∃ j, p.Ends text i j ∧ ∃ n, Times text (p.erase.Spans text) n j k

theorem ends_forward (m : Marked) : Forward text (m.Ends text) := by
  induction m with
  | idle p => exact ⟨False.elim, False.elim⟩
  | hit s => exact ⟨fun h => Nat.le_of_eq h.1, fun h => h.1 ▸ h.2⟩
  | concat p q hp hq =>
    have hs : Forward text (q.erase.Spans text) := q.erase.spans_forward
    refine ⟨?_, ?_⟩ <;> rintro i k (⟨j, h, h'⟩ | h)
    · exact Nat.le_trans (hp.le h) (hs.le h')
    · exact hq.le h
    · exact hs.le_length h'
    · exact hq.le_length h
  | alt p q hp hq => exact ⟨fun h => h.elim hp.le hq.le, fun h => h.elim hp.le_length hq.le_length⟩
  | loop p hp =>
    have hs : ∀ n, Forward text (Times text (p.erase.Spans text) n) := p.erase.spans_forward.times
    refine ⟨?_, ?_⟩ <;> rintro i k ⟨j, h, n, h'⟩
    · exact Nat.le_trans (hp.le h) ((hs n).le h')
    · exact (hs n).le_length h'

/-! The constructors that keep parts without marks whole mean what the plain ones mean. -/

@[simp] theorem erase_inRow (p q : Marked) : (p.inRow q).erase = .concat p.erase q.erase := by
  cases p <;> cases q <;> rfl

@[simp] theorem erase_either (p q : Marked) : (p.either q).erase = .alt p.erase q.erase := by
  cases p <;> cases q <;> rfl

@[simp] theorem erase_oneOrMore (p : Marked) : p.oneOrMore.erase = .loop p.erase := by
  cases p <;> rfl

@[simp] theorem erase_ofSet (s : CharSet) (mark : Bool) : (ofSet s mark).erase = .set s := by
  cases mark <;> rfl

theorem ends_inRow {p q : Marked} :
    (p.inRow q).Ends text i j ↔ (p.concat q).Ends text i j := by
  cases p <;> cases q <;> simp [inRow, Ends]

theorem ends_either {p q : Marked} :
    (p.either q).Ends text i j ↔ (p.alt q).Ends text i j := by
  cases p <;> cases q <;> simp [either, Ends]

theorem ends_oneOrMore {p : Marked} : p.oneOrMore.Ends text i j ↔ p.loop.Ends text i j := by
  cases p <;> simp [oneOrMore, Ends]

theorem ends_ofSet {s : CharSet} {mark : Bool} :
    (ofSet s mark).Ends text i j ↔ mark = true ∧ i = j ∧ i ≤ text.length := by
  cases mark <;> simp [ofSet, Ends]

end Marked

/-! ## One step -/

/-- Of two steps that go on together, the first goes on or is empty. -/
theorem comp_advance_iff {R S : Nat → Nat → Prop} (hR : Forward text R) (hS : Forward text S) :
    (∃ j, R i j ∧ S j k) ∧ i < k ↔ (∃ j, (R i j ∧ i < j) ∧ S j k) ∨ R i i ∧ S i k ∧ i < k := by
  constructor
  · rintro ⟨⟨j, hj, h⟩, hik⟩
    by_cases hij : i = j
    · subst hij
      exact .inr ⟨hj, h, hik⟩
    · exact .inl ⟨j, ⟨hj, Nat.lt_of_le_of_ne (hR.le hj) hij⟩, h⟩
  · rintro (⟨j, ⟨hj, hij⟩, h⟩ | ⟨hi, h, hik⟩)
    · exact ⟨⟨j, hj, h⟩, Nat.lt_of_lt_of_le hij (hS.le h)⟩
    · exact ⟨⟨i, hi, h⟩, hik⟩

/-- Of rounds that go on together, some first one does. -/
theorem times_advance_iff {R : Nat → Nat → Prop} (hR : Forward text R) :
    (∃ n, Times text R n i k) ∧ i < k ↔ ∃ j, (R i j ∧ i < j) ∧ ∃ n, Times text R n j k := by
  constructor
  · rintro ⟨⟨n, h⟩, hik⟩
    obtain ⟨j, m, hij, hj, h⟩ := exists_first_advance hR h hik
    exact ⟨j, ⟨hj, hij⟩, m, h⟩
  · rintro ⟨j, ⟨hj, hij⟩, n, h⟩
    exact ⟨⟨n + 1, j, hj, h⟩, Nat.lt_of_lt_of_le hij ((hR.times n).le h)⟩

/-- A loop that goes on has any number of rounds. -/
theorem Plain.loop_advance_iff {p : Plain} :
    (Plain.loop p).Spans text i k ∧ i < k ↔ (∃ n, Times text (p.Spans text) n i k) ∧ i < k := by
  refine and_congr_left fun hik => ⟨fun ⟨n, h⟩ => ⟨n + 1, h⟩, ?_⟩
  rintro ⟨n, h⟩
  cases n with
  | zero => exact absurd h.1 (Nat.ne_of_lt hik)
  | succ n => exact ⟨n, h⟩

/-- The character behind a place decides whether a set with a mark can stand at the next one. -/
theorem spans_set_of_after {s : CharSet} (hi : i < text.length) :
    ((around text i).2.any s.contains = true ∧ i + 1 = j ∧ i + 1 ≤ text.length) ↔
      (Plain.set s).Spans text i j ∧ i < j := by
  simp only [around, Plain.Spans, List.getElem?_eq_getElem hi, Option.any_some]
  constructor
  · rintro ⟨hs, rfl, -⟩
    exact ⟨⟨rfl, _, rfl, hs⟩, Nat.lt_succ_self i⟩
  · rintro ⟨⟨rfl, c, hc, hs⟩, -⟩
    cases hc
    exact ⟨hs, rfl, hi⟩

@[simp] theorem Plain.erase_enter (before after : Option Char) (p : Plain) :
    (p.enter before after).erase = p := by
  induction p with
  | empty => rfl
  | set s => exact Marked.erase_ofSet _ _
  | look a => rfl
  | concat p q hp hq =>
    rw [enter, Marked.erase_inRow, hp]
    split
    · rw [hq]
    · rfl
  | alt p q hp hq => rw [enter, Marked.erase_either, hp, hq]
  | loop p hp => rw [enter, Marked.erase_oneOrMore, hp]

/-- The marks behind a place where matches begin are on the way to the ends of these matches. -/
theorem Plain.ends_enter_iff (p : Plain) (hi : i < text.length) :
    (p.enter (around text i).1 (around text i).2).Ends text (i + 1) j ↔
      p.Spans text i j ∧ i < j := by
  induction p generalizing j with
  | empty =>
    constructor
    · exact False.elim
    · exact fun ⟨⟨hij, _⟩, h⟩ => absurd hij (Nat.ne_of_lt h)
  | look a =>
    constructor
    · exact False.elim
    · exact fun ⟨⟨hij, _⟩, h⟩ => absurd hij (Nat.ne_of_lt h)
  | set s => rw [enter, Marked.ends_ofSet, spans_set_of_after hi]
  | concat p q hp hq =>
    rw [enter, Marked.ends_inRow, Marked.Ends, Spans,
      comp_advance_iff p.spans_forward q.spans_forward, ← passes_iff p (Nat.le_of_lt hi)]
    simp only [hp]
    split
    · next h => simp only [erase_enter, hq, h, true_and]
    · next h => simp only [Marked.erase, Marked.Ends, h, false_and, reduceCtorEq]
  | alt p q hp hq =>
    rw [enter, Marked.ends_either, Marked.Ends, hp, hq, Spans, or_and_right]
  | loop p hp =>
    rw [enter, Marked.ends_oneOrMore, Marked.Ends, loop_advance_iff,
      times_advance_iff p.spans_forward]
    simp only [hp, erase_enter]

namespace Marked

@[simp] theorem erase_move (m : Marked) (before after : Option Char) (enter : Bool) :
    ((m.read before after).move enter).erase = m.erase := by
  induction m generalizing enter with
  | idle p =>
    dsimp only [read]
    split
    · exact p.erase_enter before after
    · rfl
  | hit s => exact erase_ofSet _ _
  | concat p q hp hq =>
    dsimp only [read]
    rw [erase_inRow, hp, hq, erase]
  | alt p q hp hq =>
    dsimp only [read]
    rw [erase_either, hp, hq, erase]
  | loop p hp =>
    dsimp only [read]
    rw [erase_oneOrMore, hp, erase]

theorem passes_read_iff (m : Marked) (hi : i ≤ text.length) :
    (m.read (around text i).1 (around text i).2).passes = true ↔ m.erase.Spans text i i := by
  rw [← Plain.passes_iff m.erase hi]
  induction m with
  | idle p => rfl
  | hit s => rfl
  | concat p q hp hq =>
    dsimp only [read]
    rw [Bool.and_eq_true, hp, hq, erase, Plain.passes, Bool.and_eq_true]
  | alt p q hp hq =>
    dsimp only [read]
    rw [Bool.or_eq_true, hp, hq, erase, Plain.passes, Bool.or_eq_true]
  | loop p hp => exact hp

theorem ends_read_iff (m : Marked) (hi : i ≤ text.length) :
    (m.read (around text i).1 (around text i).2).ends = true ↔ m.Ends text i i := by
  induction m with
  | idle p => exact ⟨Bool.noConfusion, False.elim⟩
  | hit s => exact ⟨fun _ => ⟨rfl, hi⟩, fun _ => rfl⟩
  | concat p q hp hq =>
    dsimp only [read]
    rw [Bool.or_eq_true, Bool.and_eq_true, hp, hq, passes_read_iff q hi, Ends, or_comm]
    refine or_congr_left ⟨fun h => ⟨i, h⟩, ?_⟩
    rintro ⟨k, hk, h⟩
    obtain rfl := Nat.le_antisymm (p.ends_forward.le hk) (q.erase.spans_forward.le h)
    exact ⟨hk, h⟩
  | alt p q hp hq =>
    dsimp only [read]
    rw [Bool.or_eq_true, hp, hq, Ends]
  | loop p hp =>
    have hs : Forward text (p.erase.Spans text) := p.erase.spans_forward
    refine hp.trans ⟨fun h => ⟨i, h, 0, rfl, hi⟩, ?_⟩
    rintro ⟨k, hk, n, h⟩
    obtain rfl := Nat.le_antisymm (p.ends_forward.le hk) ((hs.times n).le h)
    exact hk

/-- One step keeps the matches that are under way and do not end here, and adds those that begin
here, if matches may. -/
theorem ends_move_iff (m : Marked) (hi : i < text.length) (enter : Bool) :
    ((m.read (around text i).1 (around text i).2).move enter).Ends text (i + 1) j ↔
      m.Ends text i j ∧ i < j ∨ enter = true ∧ m.erase.Spans text i j ∧ i < j := by
  induction m generalizing j enter with
  | idle p =>
    dsimp only [read]
    split
    · next h => simp [h, Plain.ends_enter_iff p hi, erase, Ends]
    · next h => simp [h, Ends]
  | hit s =>
    dsimp only [read]
    rw [ends_ofSet, Bool.and_eq_true, and_assoc, spans_set_of_after hi, erase]
    refine ⟨.inr, fun h => h.resolve_left fun h => absurd h.1.1 (Nat.ne_of_lt h.2)⟩
  | concat p q hp hq =>
    have hpf : Forward text (p.Ends text) := p.ends_forward
    have hps : Forward text (p.erase.Spans text) := p.erase.spans_forward
    have hqs : Forward text (q.erase.Spans text) := q.erase.spans_forward
    -- the second part is entered where the first one can end, by the empty text or under way
    have hstart : (enter && (p.read (around text i).1 (around text i).2).passes ||
        (p.read (around text i).1 (around text i).2).ends) = true ↔
        enter = true ∧ p.erase.Spans text i i ∨ p.Ends text i i := by
      rw [Bool.or_eq_true, Bool.and_eq_true, p.passes_read_iff (Nat.le_of_lt hi),
        p.ends_read_iff (Nat.le_of_lt hi)]
    dsimp only [read]
    rw [ends_inRow, Ends, hq, hstart, Ends, erase, Plain.Spans, or_and_right (c := i < j),
      comp_advance_iff hpf hqs, comp_advance_iff hps hqs]
    simp only [hp, erase_move, or_and_right, exists_or, and_assoc, exists_and_left]
    constructor
    · rintro ((h | ⟨he, h⟩) | h | ⟨he, h⟩ | h)
      · exact .inl (.inl (.inl h))
      · exact .inr ⟨he, .inl h⟩
      · exact .inl (.inr h)
      · exact .inr ⟨he, .inr h⟩
      · exact .inl (.inl (.inr h))
    · rintro (((h | h) | h) | ⟨he, h | h⟩)
      · exact .inl (.inl h)
      · exact .inr (.inr (.inr h))
      · exact .inr (.inl h)
      · exact .inl (.inr ⟨he, h⟩)
      · exact .inr (.inr (.inl ⟨he, h⟩))
  | alt p q hp hq =>
    dsimp only [read]
    rw [ends_either, Ends, hp, hq, Ends, erase, Plain.Spans]
    constructor
    · rintro ((⟨h, hij⟩ | ⟨he, h, hij⟩) | ⟨h, hij⟩ | ⟨he, h, hij⟩)
      · exact .inl ⟨.inl h, hij⟩
      · exact .inr ⟨he, .inl h, hij⟩
      · exact .inl ⟨.inr h, hij⟩
      · exact .inr ⟨he, .inr h, hij⟩
    · rintro (⟨h | h, hij⟩ | ⟨he, h | h, hij⟩)
      · exact .inl (.inl ⟨h, hij⟩)
      · exact .inr (.inl ⟨h, hij⟩)
      · exact .inl (.inr ⟨he, h, hij⟩)
      · exact .inr (.inr ⟨he, h, hij⟩)
  | loop p hp =>
    have hpf : Forward text (p.Ends text) := p.ends_forward
    have hps : Forward text (p.erase.Spans text) := p.erase.spans_forward
    have hrest : Forward text fun i j => ∃ n, Times text (p.erase.Spans text) n i j := by
      refine ⟨?_, ?_⟩ <;> rintro i j ⟨n, h⟩
      · exact (hps.times n).le h
      · exact (hps.times n).le_length h
    -- a round begins where matches may begin and where another round ends
    have hstart : (enter || (p.read (around text i).1 (around text i).2).ends) = true ↔
        enter = true ∨ p.Ends text i i := by
      rw [Bool.or_eq_true, p.ends_read_iff (Nat.le_of_lt hi)]
    dsimp only [read]
    rw [ends_oneOrMore, Ends, Ends, erase, Plain.loop_advance_iff, comp_advance_iff hpf hrest,
      times_advance_iff hps]
    simp only [hp, hstart, erase_move, or_and_right, exists_or, and_assoc, exists_and_left]
    rw [or_comm (a := enter = true ∧ _), ← or_assoc]

/-! ## Runs -/

theorem around_of_drop {c : Char} {cs : List Char} (h : text.drop i = c :: cs) :
    i < text.length ∧ (around text i).2 = some c ∧ (around text (i + 1)).1 = some c ∧
      text.drop (i + 1) = cs := by
  have hi : i < text.length := by
    have := congrArg List.length h
    rw [List.length_drop, List.length_cons] at this
    omega
  rw [List.drop_eq_getElem_cons hi] at h
  obtain ⟨rfl, rfl⟩ := List.cons.inj h
  simp [around, hi]

/-- A run from place `i` finds the matches under way there and those that begin there or later. -/
theorem matchesSome_iff (m : Marked) (hi : i ≤ text.length) :
    m.matchesSome (around text i).1 (text.drop i) = true ↔
      (∃ j, m.Ends text i j) ∨ ∃ k j, i ≤ k ∧ m.erase.Spans text k j := by
  generalize hcs : text.drop i = cs
  -- on the rest of the text; what a run knows of it is what one step says of the place
  induction cs generalizing m i with
  | nil =>
    have hm : Forward text (m.Ends text) := m.ends_forward
    have hs : Forward text (m.erase.Spans text) := m.erase.spans_forward
    have hlen : text.length ≤ i := List.drop_eq_nil_iff.1 hcs
    have hafter : (around text i).2 = none := by simp [around, hlen]
    have hpasses := m.passes_read_iff hi
    have hends := m.ends_read_iff hi
    rw [hafter] at hpasses hends
    rw [matchesSome, Bool.or_eq_true, hpasses, hends]
    constructor
    · rintro (h | h)
      · exact .inr ⟨i, i, Nat.le_refl _, h⟩
      · exact .inl ⟨i, h⟩
    · rintro (⟨j, h⟩ | ⟨k, j, hik, h⟩)
      · have := hm.le h
        have := hm.le_length h
        obtain rfl : i = j := by omega
        exact .inr h
      · have := hs.le h
        have := hs.le_length h
        obtain ⟨rfl, rfl⟩ : k = i ∧ j = i := by omega
        exact .inl h
  | cons c cs ih =>
    have hm : Forward text (m.Ends text) := m.ends_forward
    have hs : Forward text (m.erase.Spans text) := m.erase.spans_forward
    obtain ⟨hi', hafter, hbefore, hrest⟩ := around_of_drop hcs
    have hpasses := m.passes_read_iff hi
    have hends := m.ends_read_iff hi
    have hmove := fun j => m.ends_move_iff (j := j) hi' true
    have hnext := ih ((m.read (around text i).1 (around text i).2).move true) hi' hrest
    rw [hafter] at hpasses hends hmove hnext
    rw [hbefore, erase_move] at hnext
    rw [matchesSome, Bool.or_eq_true, Bool.or_eq_true, hpasses, hends, hnext]
    simp only [hmove, true_and]
    constructor
    · rintro ((h | h) | ⟨j, ⟨h, -⟩ | ⟨h, -⟩⟩ | ⟨k, j, hik, h⟩)
      · exact .inr ⟨i, i, Nat.le_refl _, h⟩
      · exact .inl ⟨i, h⟩
      · exact .inl ⟨j, h⟩
      · exact .inr ⟨i, j, Nat.le_refl _, h⟩
      · exact .inr ⟨k, j, Nat.le_of_succ_le hik, h⟩
    · rintro (⟨j, h⟩ | ⟨k, j, hik, h⟩)
      · obtain rfl | hij := Nat.eq_or_lt_of_le (hm.le h)
        · exact .inl (.inr h)
        · exact .inr (.inl ⟨j, .inl ⟨h, hij⟩⟩)
      · obtain rfl | hik := Nat.eq_or_lt_of_le hik
        · obtain rfl | hij := Nat.eq_or_lt_of_le (hs.le h)
          · exact .inl (.inl h)
          · exact .inr (.inl ⟨j, .inr ⟨h, hij⟩⟩)
        · exact .inr (.inr ⟨k, j, hik, h⟩)

/-- A run from place `i` to the end finds the matches that end there. -/
theorem matchesToEnd_iff (m : Marked) (hi : i ≤ text.length) (enter : Bool) :
    m.matchesToEnd enter (around text i).1 (text.drop i) = true ↔
      m.Ends text i text.length ∨ enter = true ∧ m.erase.Spans text i text.length := by
  generalize hcs : text.drop i = cs
  induction cs generalizing m i enter with
  | nil =>
    obtain rfl : i = text.length := Nat.le_antisymm hi (List.drop_eq_nil_iff.1 hcs)
    have hafter : (around text text.length).2 = none := by simp [around]
    have hpasses := m.passes_read_iff hi
    have hends := m.ends_read_iff hi
    rw [hafter] at hpasses hends
    rw [matchesToEnd, Bool.or_eq_true, Bool.and_eq_true, hpasses, hends]
  | cons c cs ih =>
    obtain ⟨hi', hafter, hbefore, hrest⟩ := around_of_drop hcs
    have hmove := m.ends_move_iff (j := text.length) hi' enter
    have hnext := ih ((m.read (around text i).1 (around text i).2).move enter) hi' false hrest
    rw [hafter] at hmove hnext
    rw [hbefore, hmove] at hnext
    rw [matchesToEnd, hnext]
    simp [hi']

end Marked

/-- The expression prepared for a text spans there what it means. -/
theorem Regexp.spans_erase_marked {r : Regexp} (hr : r.Ordered) :
    (r.marked text).erase.Spans text i j ↔ Spans text r i j := Plain.spans_ofRegexp_iff hr

/-- A search succeeds exactly when the expression spans some part of the text. -/
theorem Regexp.search_iff {r : Regexp} (hr : r.Ordered) :
    r.search text = true ↔ ∃ i j, Spans text r i j := by
  have h := (r.marked text).matchesSome_iff (Nat.zero_le text.length)
  rw [Regexp.search]
  refine h.trans ⟨?_, fun ⟨i, j, h⟩ => .inr ⟨i, j, Nat.zero_le _, (spans_erase_marked hr).2 h⟩⟩
  rintro (⟨_, h⟩ | ⟨i, j, -, h⟩)
  · exact h.elim
  · exact ⟨i, j, (spans_erase_marked hr).1 h⟩

/-- Matching whole succeeds exactly when the expression spans the text from end to end. -/
theorem Regexp.matchesWhole_iff {r : Regexp} (hr : r.Ordered) :
    r.matchesWhole text = true ↔ Spans text r 0 text.length := by
  have h := (r.marked text).matchesToEnd_iff (Nat.zero_le text.length) true
  rw [Regexp.matchesWhole]
  refine h.trans ⟨?_, fun h => .inr ⟨rfl, (spans_erase_marked hr).2 h⟩⟩
  rintro (h | ⟨-, h⟩)
  · exact h.elim
  · exact (spans_erase_marked hr).1 h

end DashQuery.Pattern

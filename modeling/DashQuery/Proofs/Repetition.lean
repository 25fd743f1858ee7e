import DashQuery.Pattern.Matching

/-!
# Repetitions written out

A repetition spans what so many rounds span, one after the other.  A round of a pattern never goes
back and never leaves the text, so among more rounds than the text has characters one is empty.  It
may be left out or done twice.  Hence a repetition may be written out for as many rounds as the text
has places, which is what `Plain.ofRegexp` does.

* `spans_repeated_iff`: a repetition is any number of rounds between its bounds.
* `times_iff_of_le`: all numbers of rounds above the length of the text span the same.
* `Plain.spans_ofRegexp_iff`: writing a pattern out keeps what it spans, if the bounds of its
  repetitions are in order.
-/

namespace DashQuery.Pattern

variable {text : List Char}

/-! ## Rounds -/

/-- A relation between places of a text that never goes back. -/
structure Forward (text : List Char) (R : Nat → Nat → Prop) : Prop where
  le : ∀ {i j : Nat}, R i j → i ≤ j
  le_length : ∀ {i j : Nat}, R i j → j ≤ text.length

/-- So many rounds of a relation between places of a text, one after the other. -/
def Times (text : List Char) (R : Nat → Nat → Prop) : Nat → Nat → Nat → Prop
  | 0, i, j => i = j ∧ i ≤ text.length
  | n + 1, i, k => ∃ j, R i j ∧ Times text R n j k

section Rounds

variable {R S : Nat → Nat → Prop} {i j k m n : Nat}

theorem times_succ : Times text R (n + 1) i k ↔ ∃ j, R i j ∧ Times text R n j k := Iff.rfl

theorem times_congr (h : ∀ i j, R i j ↔ S i j) : Times text R n i j ↔ Times text S n i j := by
  have : R = S := funext fun i => funext fun j => propext (h i j)
  rw [this]

/-- Rounds that never go back do not go back together either. -/
theorem Forward.times (hR : Forward text R) (n : Nat) : Forward text (Times text R n) where
  le {i j} h := by
    induction n generalizing i with
    | zero => exact Nat.le_of_eq h.1
    | succ n ih =>
      obtain ⟨m, hm, h⟩ := h
      exact Nat.le_trans (hR.le hm) (ih h)
  le_length {i j} h := by
    induction n generalizing i with
    | zero => exact h.1 ▸ h.2
    | succ n ih =>
      obtain ⟨m, -, h⟩ := h
      exact ih h

theorem times_one (hR : Forward text R) : Times text R 1 i j ↔ R i j := by
  constructor
  · rintro ⟨k, h, rfl, -⟩
    exact h
  · exact fun h => ⟨j, h, rfl, hR.le_length h⟩

theorem times_add (hR : Forward text R) :
    Times text R (m + n) i k ↔ ∃ j, Times text R m i j ∧ Times text R n j k := by
  induction m generalizing i with
  | zero =>
    rw [Nat.zero_add]
    constructor
    · intro h
      exact ⟨i, ⟨rfl, Nat.le_trans ((hR.times n).le h) ((hR.times n).le_length h)⟩, h⟩
    · rintro ⟨j, ⟨rfl, -⟩, h⟩
      exact h
  | succ m ih =>
    rw [Nat.succ_add]
    constructor
    · rintro ⟨l, hl, h⟩
      obtain ⟨j, hm, hn⟩ := ih.1 h
      exact ⟨j, ⟨l, hl, hm⟩, hn⟩
    · rintro ⟨j, ⟨l, hl, hm⟩, hn⟩
      exact ⟨l, hl, ih.2 ⟨j, hm, hn⟩⟩

/-- Rounds that may each be left out are any smaller number of rounds. -/
theorem times_optional_iff :
    Times text (fun i j => R i j ∨ i = j ∧ i ≤ text.length) n i j ↔
      ∃ m, m ≤ n ∧ Times text R m i j := by
  induction n generalizing i with
  | zero => simp [Times]
  | succ n ih =>
    constructor
    · rintro ⟨l, h | ⟨rfl, -⟩, hl⟩ <;> obtain ⟨m, hm, hl⟩ := ih.1 hl
      · exact ⟨m + 1, Nat.succ_le_succ hm, l, h, hl⟩
      · exact ⟨m, Nat.le_succ_of_le hm, hl⟩
    · rintro ⟨m, hm, h⟩
      cases m with
      | zero => exact ⟨i, .inr ⟨rfl, h.2⟩, ih.2 ⟨0, Nat.zero_le _, h⟩⟩
      | succ m =>
        obtain ⟨l, hl, h⟩ := h
        exact ⟨l, .inl hl, ih.2 ⟨m, Nat.le_of_succ_le_succ hm, h⟩⟩

/-- More rounds than characters: one of them is empty. -/
theorem exists_empty_round (hR : Forward text R) (h : Times text R n i j) (hn : j - i < n) :
    ∃ a b k, n = a + (b + 1) ∧ Times text R a i k ∧ R k k ∧ Times text R b k j := by
  induction n generalizing i with
  | zero => exact absurd hn (Nat.not_lt_zero _)
  | succ n ih =>
    obtain ⟨l, hl, h⟩ := h
    have hil := hR.le hl
    have hlj := (hR.times n).le h
    have hj := (hR.times n).le_length h
    -- the first round is empty, or it leaves fewer characters to the others
    by_cases hempty : i = l
    · subst hempty
      exact ⟨0, n, i, (Nat.zero_add _).symm, ⟨rfl, Nat.le_trans hlj hj⟩, hl, h⟩
    · obtain ⟨a, b, k, rfl, ha, hk, hb⟩ := ih h (by omega)
      exact ⟨a + 1, b, k, by omega, ⟨l, hl, ha⟩, hk, hb⟩

/-- Above the length of the text one more round changes nothing. -/
theorem times_succ_iff (hR : Forward text R) (hn : text.length < n) :
    Times text R (n + 1) i j ↔ Times text R n i j := by
  constructor <;> intro h
  · have hj := (hR.times _).le_length h
    obtain ⟨a, b, k, hab, ha, -, hb⟩ := exists_empty_round hR h (by omega)
    -- the empty round is left out
    obtain rfl : n = a + b := by omega
    exact (times_add hR).2 ⟨k, ha, hb⟩
  · have hj := (hR.times _).le_length h
    obtain ⟨a, b, k, rfl, ha, hk, hb⟩ := exists_empty_round hR h (by omega)
    -- the empty round is done twice
    exact (times_add hR (n := b + 1 + 1)).2 ⟨k, ha, k, hk, k, hk, hb⟩

/-- All numbers of rounds above the length of the text span the same. -/
theorem times_iff_of_le (hR : Forward text R) (hm : text.length < m) (hn : m ≤ n) :
    Times text R n i j ↔ Times text R m i j := by
  induction hn with
  | refl => exact Iff.rfl
  | step hmn ih => exact (times_succ_iff hR (Nat.lt_of_lt_of_le hm hmn)).trans ih

/-- If every round is empty, one round stands for all. -/
theorem times_blank_iff (hR : Forward text R) (hblank : ∀ {i j}, R i j → i = j) :
    Times text R (n + 1) i j ↔ R i j := by
  induction n with
  | zero => exact times_one hR
  | succ n ih =>
    refine Iff.trans ⟨?_, fun h => ?_⟩ ih
    · rintro ⟨k, hk, h⟩
      rwa [hblank hk]
    · have hij := hblank (ih.1 h)
      exact ⟨i, by simpa [hij] using ih.1 h, h⟩

/-- Rounds that go on have a first round that does. -/
theorem exists_first_advance (hR : Forward text R) (h : Times text R n i j) (hij : i < j) :
    ∃ k m, i < k ∧ R i k ∧ Times text R m k j := by
  induction n with
  | zero => exact absurd h.1 (Nat.ne_of_lt hij)
  | succ n ih =>
    obtain ⟨l, hl, h⟩ := h
    by_cases hempty : i = l
    · subst hempty
      exact ih h
    · exact ⟨l, n, Nat.lt_of_le_of_ne (hR.le hl) hempty, hl, h⟩

end Rounds

/-! ## What an expression spans -/

section Expressions

variable {p q : Regexp} {i j k : Nat}

theorem spans_empty_iff : Spans text .empty i j ↔ i = j ∧ i ≤ text.length := by
  constructor
  · rintro ⟨h⟩
    exact ⟨rfl, ‹_›⟩
  · rintro ⟨rfl, h⟩
    exact .empty h

theorem spans_set_iff {s : CharSet} :
    Spans text (.set s) i j ↔ j = i + 1 ∧ ∃ c, text[i]? = some c ∧ s.contains c = true := by
  constructor
  · rintro ⟨⟩
    exact ⟨rfl, _, ‹_›, ‹_›⟩
  · rintro ⟨rfl, c, hc, hs⟩
    exact .set hc hs

theorem spans_look_iff {a : Assertion} :
    Spans text (.look a) i j ↔
      i = j ∧ i ≤ text.length ∧ a.holds (around text i).1 (around text i).2 = true := by
  constructor
  · rintro ⟨⟩
    exact ⟨rfl, ‹_›, ‹_›⟩
  · rintro ⟨rfl, h, ha⟩
    exact .look h ha

theorem spans_concat_iff :
    Spans text (.concat p q) i k ↔ ∃ j, Spans text p i j ∧ Spans text q j k := by
  constructor
  · rintro ⟨⟩
    exact ⟨_, ‹_›, ‹_›⟩
  · rintro ⟨j, hp, hq⟩
    exact .concat hp hq

theorem spans_alt_iff : Spans text (.alt p q) i j ↔ Spans text p i j ∨ Spans text q i j := by
  constructor
  · rintro (_ | _)
    · exact .inl ‹_›
    · exact .inr ‹_›
  · rintro (h | h)
    · exact .altLeft h
    · exact .altRight h

theorem spans_group_iff : Spans text (.group p) i j ↔ Spans text p i j := by
  constructor
  · rintro ⟨⟩
    exact ‹_›
  · exact .group

/-- A repetition is any number of rounds between its bounds. -/
theorem spans_repeated_iff {lo : Nat} {hi? : Option Nat} :
    Spans text (.repeated p lo hi?) i j ↔
      ∃ n, lo ≤ n ∧ (∀ hi, hi? = some hi → n ≤ hi) ∧ Times text (Spans text p) n i j := by
  constructor
  · intro h
    generalize hr : Regexp.repeated p lo hi? = r at h
    induction h generalizing lo hi? with
    | stop h =>
      obtain ⟨rfl, rfl, rfl⟩ := hr
      exact ⟨0, Nat.le_refl _, fun _ _ => Nat.zero_le _, rfl, h⟩
    | again hhi hp _ _ ih =>
      obtain ⟨rfl, rfl, rfl⟩ := hr
      obtain ⟨n, hlo, hn, h⟩ := ih rfl
      refine ⟨n + 1, by omega, fun hi hhi? => ?_, _, hp, h⟩
      subst hhi?
      have := hn (hi - 1) rfl
      have : hi ≠ 0 := fun h0 => hhi (congrArg some h0)
      omega
    | _ => cases hr
  · rintro ⟨n, hlo, hn, h⟩
    induction n generalizing lo hi? i with
    | zero =>
      obtain ⟨rfl, h⟩ := h
      rw [Nat.le_zero.1 hlo]
      exact .stop h
    | succ n ih =>
      obtain ⟨l, hl, h⟩ := h
      refine .again (fun h0 => absurd (hn 0 h0) (Nat.not_succ_le_zero n)) hl
        (ih (by omega) (fun hi hhi => ?_) h)
      obtain ⟨hi', rfl, rfl⟩ := Option.map_eq_some_iff.1 hhi
      have := hn hi' rfl
      omega

theorem spans_forward (r : Regexp) : Forward text (Spans text r) := by
  induction r with
  | empty => exact ⟨fun h => by cases h; exact Nat.le_refl _, fun h => by cases h; assumption⟩
  | look a => exact ⟨fun h => by cases h; exact Nat.le_refl _, fun h => by cases h; assumption⟩
  | set s =>
    refine ⟨fun h => ?_, fun h => ?_⟩ <;> obtain ⟨rfl, c, hc, -⟩ := spans_set_iff.1 h
    · exact Nat.le_succ _
    · exact (List.getElem?_eq_some_iff.1 hc).1
  | concat p q hp hq =>
    refine ⟨fun h => ?_, fun h => ?_⟩ <;> obtain ⟨k, h₁, h₂⟩ := spans_concat_iff.1 h
    · exact Nat.le_trans (hp.le h₁) (hq.le h₂)
    · exact hq.le_length h₂
  | alt p q hp hq =>
    refine ⟨fun h => ?_, fun h => ?_⟩ <;> obtain h | h := spans_alt_iff.1 h
    · exact hp.le h
    · exact hq.le h
    · exact hp.le_length h
    · exact hq.le_length h
  | group p hp =>
    exact ⟨fun h => hp.le (spans_group_iff.1 h), fun h => hp.le_length (spans_group_iff.1 h)⟩
  | repeated p lo hi? hp =>
    refine ⟨fun h => ?_, fun h => ?_⟩ <;> obtain ⟨n, -, -, h⟩ := spans_repeated_iff.1 h
    · exact (hp.times n).le h
    · exact (hp.times n).le_length h

/-- What can only match the empty text spans nothing else. -/
theorem eq_of_isBlank {r : Regexp} (hr : r.isBlank = true) (h : Spans text r i j) : i = j := by
  induction h with
  | empty => rfl
  | look => rfl
  | set => cases hr
  | concat _ _ hp hq =>
    rw [Regexp.isBlank, Bool.and_eq_true] at hr
    exact (hp hr.1).trans (hq hr.2)
  | altLeft _ hp =>
    rw [Regexp.isBlank, Bool.and_eq_true] at hr
    exact hp hr.1
  | altRight _ hq =>
    rw [Regexp.isBlank, Bool.and_eq_true] at hr
    exact hq hr.2
  | group _ hp => exact hp hr
  | stop => rfl
  | again hhi _ _ hp hrest =>
    simp only [Regexp.isBlank, Bool.or_eq_true, beq_iff_eq] at hr hrest
    have hb := hr.resolve_right hhi
    exact (hp hb).trans (hrest (.inl hb))

end Expressions

/-! ## Writing repetitions out -/

/-- The bounds of all repetitions are in order. -/
def Regexp.Ordered : Regexp → Prop
  | empty | set _ | look _ => True
  | concat p q | alt p q => p.Ordered ∧ q.Ordered
  | group p => p.Ordered
  | repeated p lo hi? => p.Ordered ∧ ∀ hi, hi? = some hi → lo ≤ hi

namespace Plain

/-- The expression matches the part of the text from place `i` to place `j`. -/
def Spans (text : List Char) : Plain → Nat → Nat → Prop
  | empty, i, j => i = j ∧ i ≤ text.length
  | set s, i, j => j = i + 1 ∧ ∃ c, text[i]? = some c ∧ s.contains c = true
  | look a, i, j =>
    i = j ∧ i ≤ text.length ∧ a.holds (around text i).1 (around text i).2 = true
  | concat p q, i, k => ∃ j, p.Spans text i j ∧ q.Spans text j k
  | alt p q, i, j => p.Spans text i j ∨ q.Spans text i j
  | loop p, i, j => ∃ n, Times text (p.Spans text) (n + 1) i j

variable {p : Plain} {i j : Nat}

theorem spans_forward (p : Plain) : Forward text (p.Spans text) := by
  induction p with
  | empty => exact ⟨fun h => Nat.le_of_eq h.1, fun h => h.1 ▸ h.2⟩
  | look a => exact ⟨fun h => Nat.le_of_eq h.1, fun h => h.1 ▸ h.2.1⟩
  | set s =>
    refine ⟨?_, ?_⟩ <;> rintro i _ ⟨rfl, c, hc, -⟩
    · exact Nat.le_succ _
    · exact (List.getElem?_eq_some_iff.1 hc).1
  | concat p q hp hq =>
    exact ⟨fun ⟨_, h₁, h₂⟩ => Nat.le_trans (hp.le h₁) (hq.le h₂), fun ⟨_, _, h₂⟩ => hq.le_length h₂⟩
  | alt p q hp hq => exact ⟨fun h => h.elim hp.le hq.le, fun h => h.elim hp.le_length hq.le_length⟩
  | loop p hp => exact ⟨fun ⟨n, h⟩ => (hp.times _).le h, fun ⟨n, h⟩ => (hp.times _).le_length h⟩

theorem spans_copies_iff (p : Plain) (n : Nat) :
    (p.copies n).Spans text i j ↔ Times text (p.Spans text) n i j := by
  have hp : Forward text (p.Spans text) := p.spans_forward
  induction n using Nat.strongRecOn generalizing i j with
  | _ n ih =>
    rw [copies]
    split
    · next h => subst h; rfl
    split
    · next h => subst h; exact (times_one hp).symm
    have hhalf : ∀ i j, ((p.copies (n / 2)).concat (p.copies (n / 2))).Spans text i j ↔
        Times text (p.Spans text) (n / 2 + n / 2) i j := fun i j => by
      simp only [Spans, times_add hp, ih (n / 2) (by omega)]
    dsimp only
    split
    · next heven => rw [hhalf, show n / 2 + n / 2 = n by omega]
    · next hodd =>
      have hn : n / 2 + n / 2 + 1 = n := by omega
      calc (p.concat ((p.copies (n / 2)).concat (p.copies (n / 2)))).Spans text i j
          ↔ ∃ k, p.Spans text i k ∧ Times text (p.Spans text) (n / 2 + n / 2) k j :=
            exists_congr fun k => and_congr_right fun _ => hhalf k j
        _ ↔ Times text (p.Spans text) n i j := by rw [← times_succ, hn]

/-- Copies that may each be left out are any smaller number of rounds. -/
theorem spans_copies_optional_iff (p : Plain) (n : Nat) :
    ((p.alt empty).copies n).Spans text i j ↔
      ∃ m, m ≤ n ∧ Times text (p.Spans text) m i j :=
  (spans_copies_iff _ n).trans times_optional_iff

/-- Above the length of the text numbers of rounds may be exchanged. -/
theorem times_exchange {most m n : Nat} (hmost : text.length < most) (hm : most ≤ m) (hn : most ≤ n)
    (h : Times text (p.Spans text) m i j) : Times text (p.Spans text) n i j :=
  (times_iff_of_le p.spans_forward hmost hn).2 ((times_iff_of_le p.spans_forward hmost hm).1 h)

/-- A repetition without an upper bound that is written out has any number of rounds from its lower
bound on, as far as that counts. -/
theorem spans_rounds_none {most lo : Nat} (hmost : 0 < most) :
    (p.rounds most lo none).Spans text i j ↔
      ∃ n, min lo most ≤ n ∧ Times text (p.Spans text) n i j := by
  unfold rounds
  dsimp only
  split
  · next hlo =>
    subst hlo
    constructor
    · rintro (⟨n, h⟩ | h)
      · exact ⟨n + 1, by omega, h⟩
      · exact ⟨0, by omega, h⟩
    · rintro ⟨n, -, h⟩
      cases n with
      | zero => exact .inr h
      | succ n => exact .inl ⟨n, h⟩
  · next hlo =>
    have hp : Forward text (p.Spans text) := p.spans_forward
    constructor
    · rintro ⟨k, hk, n, h⟩
      exact ⟨min lo most - 1 + (n + 1), by omega,
        (times_add hp).2 ⟨k, (spans_copies_iff p _).1 hk, h⟩⟩
    · rintro ⟨n, hn, h⟩
      obtain ⟨m, rfl⟩ : ∃ m, n = min lo most - 1 + (m + 1) := ⟨n - min lo most, by omega⟩
      obtain ⟨k, hk, h⟩ := (times_add hp).1 h
      exact ⟨k, (spans_copies_iff p _).2 hk, m, h⟩

/-- A repetition with an upper bound that is written out has the rounds that its lower bound asks
for and some of the others, as far as they count. -/
theorem spans_rounds_some {most lo hi : Nat} :
    (p.rounds most lo (some hi)).Spans text i j ↔
      ∃ m, m ≤ min (hi - lo) most ∧ Times text (p.Spans text) (min lo most + m) i j := by
  have hp : Forward text (p.Spans text) := p.spans_forward
  constructor
  · rintro ⟨k, hk, h⟩
    obtain ⟨m, hm, h⟩ := (spans_copies_optional_iff p _).1 h
    exact ⟨m, hm, (times_add hp).2 ⟨k, (spans_copies_iff p _).1 hk, h⟩⟩
  · rintro ⟨m, hm, h⟩
    obtain ⟨k, hk, h⟩ := (times_add hp).1 h
    exact ⟨k, (spans_copies_iff p _).2 hk, (spans_copies_optional_iff p _).2 ⟨m, hm, h⟩⟩

/-- Writing a repetition out for more rounds than the text has characters keeps what it spans. -/
theorem spans_rounds_iff {most lo : Nat} {hi? : Option Nat} (hmost : text.length < most)
    (horder : ∀ hi, hi? = some hi → lo ≤ hi) :
    (p.rounds most lo hi?).Spans text i j ↔
      ∃ n, lo ≤ n ∧ (∀ hi, hi? = some hi → n ≤ hi) ∧ Times text (p.Spans text) n i j := by
  cases hi? with
  | none =>
    have hpos : 0 < most := Nat.zero_lt_of_lt hmost
    rw [spans_rounds_none hpos]
    constructor
    · rintro ⟨n, hn, h⟩
      by_cases hlo : lo ≤ n
      · exact ⟨n, hlo, fun _ h0 => (by cases h0), h⟩
      · exact ⟨lo, Nat.le_refl _, fun _ h0 => (by cases h0),
          times_exchange hmost (by omega) (by omega) h⟩
    · rintro ⟨n, hn, -, h⟩
      exact ⟨n, by omega, h⟩
  | some hi =>
    have hlohi := horder hi rfl
    rw [spans_rounds_some]
    constructor
    · rintro ⟨m, hm, h⟩
      by_cases hlo : lo ≤ most
      · rw [Nat.min_eq_left hlo] at h
        exact ⟨lo + m, by omega, fun _ h0 => by cases h0; omega, h⟩
      · exact ⟨lo, Nat.le_refl _, fun _ h0 => by cases h0; exact hlohi,
          times_exchange hmost (by omega) (by omega) h⟩
    · rintro ⟨n, hn, hnhi, h⟩
      have hnhi := hnhi hi rfl
      by_cases hsmall : n ≤ min lo most + min (hi - lo) most
      · exact ⟨n - min lo most, by omega, by rwa [Nat.add_sub_cancel' (by omega)]⟩
      · exact ⟨min (hi - lo) most, Nat.le_refl _, times_exchange hmost (by omega) (by omega) h⟩

/-- Writing a pattern out keeps what it spans. -/
theorem spans_ofRegexp_iff {r : Regexp} (hr : r.Ordered) :
    (ofRegexp (text.length + 1) r).Spans text i j ↔ Pattern.Spans text r i j := by
  induction r generalizing i j with
  | empty => exact spans_empty_iff.symm
  | set s => exact spans_set_iff.symm
  | look a => exact spans_look_iff.symm
  | concat p q hp hq =>
    rw [spans_concat_iff]
    exact exists_congr fun k => and_congr (hp hr.1) (hq hr.2)
  | alt p q hp hq =>
    rw [spans_alt_iff]
    exact or_congr (hp hr.1) (hq hr.2)
  | group p hp =>
    rw [spans_group_iff]
    exact hp hr
  | repeated p lo hi? hp =>
    rw [spans_repeated_iff, ofRegexp]
    have hwhole : ∀ i j, (ofRegexp (text.length + 1) p).Spans text i j ↔ Pattern.Spans text p i j :=
      fun i j => hp hr.1
    split
    · next hblank =>
      have hp₁ : Forward text (Pattern.Spans text p) := Pattern.spans_forward p
      have hp₂ : ∀ {i j}, Pattern.Spans text p i j → i = j := eq_of_isBlank hblank
      split
      · next hlo =>
        subst hlo
        constructor
        · exact fun h => ⟨0, Nat.le_refl _, fun _ _ => Nat.zero_le _, h⟩
        · rintro ⟨n, -, -, h⟩
          cases n with
          | zero => exact h
          | succ n =>
            have hij := hp₂ ((times_blank_iff hp₁ hp₂).1 h)
            exact ⟨hij, hij ▸ (hp₁.times _).le_length h⟩
      · next hlo =>
        obtain ⟨m, rfl⟩ := Nat.exists_eq_succ_of_ne_zero hlo
        rw [hwhole]
        constructor
        · exact fun h => ⟨m + 1, Nat.le_refl _, hr.2, (times_blank_iff hp₁ hp₂).2 h⟩
        · rintro ⟨n, hn, -, h⟩
          obtain ⟨n, rfl⟩ := Nat.exists_eq_succ_of_ne_zero (n := n) (by omega)
          exact (times_blank_iff hp₁ hp₂).1 h
    · rw [spans_rounds_iff (Nat.lt_succ_self _) hr.2]
      simp only [times_congr hwhole]

end Plain

end DashQuery.Pattern

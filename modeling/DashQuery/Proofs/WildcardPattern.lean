import Mathlib.Order.Bounds.Basic
import DashQuery.Proofs.Rows
import DashQuery.Proofs.WildcardLabels

/-!
# The pattern of wildcards

The labels in front of wildcards are those that a search for a pattern captures in its successive
matches.  What each part of the pattern spans is said about the text between the two places: a
label, and behind it a colon and a wildcard.

* `SuccessiveSpans`: the matches that a search finds one after the other.
* `successiveSpans_iff`: matches that do not overlap are all that a search finds, if every match
  ends with one of them and starts no earlier.
* `spans_labelExpr_iff`, `spans_wildcardExpr_iff`: what the pattern spans.
-/

namespace DashQuery.Text

variable {c : Char} {cs front back : List Char} {i j m : Nat}

/-- A part of a text is cut at one of its places. -/
theorem extract_eq_append_cons (him : i ≤ m) (hmj : m < j) (hm : cs[m]? = some c) :
    cs.extract i j = cs.extract i m ++ c :: cs.extract (m + 1) j := by
  have hdrop : (cs.drop i).drop (m - i) = c :: cs.drop (m + 1) := by
    rw [List.drop_drop, Nat.add_sub_cancel' him, Pattern.drop_eq_cons_iff]
    exact ⟨hm, rfl⟩
  have hlength : j - i = (m - i) + ((j - (m + 1)) + 1) := by omega
  simp only [List.extract_eq_take_drop]
  rw [hlength, List.take_add, hdrop, List.take_succ_cons]

/-- The ways to cut a part of a text at a character are given by the places of the character. -/
theorem extract_eq_append_cons_iff :
    cs.extract i j = front ++ c :: back ↔
      ∃ m, i ≤ m ∧ m < j ∧ cs[m]? = some c ∧ front = cs.extract i m ∧
        back = cs.extract (m + 1) j := by
  constructor
  · intro h
    have hlength := congrArg List.length h
    rw [List.extract_eq_take_drop, List.length_take, List.length_drop, List.length_append,
      List.length_cons] at hlength
    have him : i ≤ i + front.length := Nat.le_add_right i _
    have hmj : i + front.length < j := by omega
    have hm : cs[i + front.length]? = some cs[i + front.length] :=
      List.getElem?_eq_getElem (by omega)
    have hfront : (cs.extract i (i + front.length)).length = front.length := by
      rw [List.extract_eq_take_drop, List.length_take, List.length_drop]
      omega
    rw [extract_eq_append_cons him hmj hm] at h
    obtain ⟨hfront, hback⟩ := List.append_inj h hfront
    obtain ⟨hc, hback⟩ := List.cons.inj hback
    exact ⟨i + front.length, him, hmj, hc ▸ hm, hfront.symm, hback.symm⟩
  · rintro ⟨m, him, hmj, hm, rfl, rfl⟩
    exact extract_eq_append_cons him hmj hm

theorem mem_extract_iff :
    c ∈ cs.extract i j ↔ ∃ m, i ≤ m ∧ m < j ∧ cs[m]? = some c := by
  simp only [List.mem_iff_append, extract_eq_append_cons_iff]
  constructor
  · rintro ⟨_, _, m, him, hmj, hm, -⟩
    exact ⟨m, him, hmj, hm⟩
  · rintro ⟨m, him, hmj, hm⟩
    exact ⟨_, _, m, him, hmj, hm, rfl, rfl⟩

theorem extract_ne_nil_iff : cs.extract i j ≠ [] ↔ i < j ∧ i < cs.length := by
  rw [List.extract_eq_take_drop, ← List.length_pos_iff, List.length_take, List.length_drop]
  omega

end DashQuery.Text

namespace DashQuery.Pattern

variable {text : List Char} {r : Regexp} {start i j k : Nat} {spans other : List (Nat × Nat)}

/-! ## Successive matches -/

/-- The matches that a search finds one after the other, from `start` on.  Each starts leftmost of
those that start behind the one before it; which one is taken of those that start there is left
open.  This is the search for an expression that does not match the empty text. -/
inductive SuccessiveSpans (text : List Char) (r : Regexp) : Nat → List (Nat × Nat) → Prop
  | nil {start : Nat} (stops : ∀ i k, start ≤ i → ¬ Spans text r i k) :
      SuccessiveSpans text r start []
  | cons {start i k : Nat} {spans : List (Nat × Nat)}
      (first : IsLeast {i | start ≤ i ∧ ∃ k, Spans text r i k} i) (ends : Spans text r i k)
      (rest : SuccessiveSpans text r k spans) : SuccessiveSpans text r start ((i, k) :: spans)

/-- **Which matches a search finds.**  Matches that do not overlap are all that it finds, if every
match ends with one of them and starts no earlier. -/
theorem successiveSpans_iff (hne : ∀ i k, Spans text r i k → i < k)
    (hspans : ∀ s ∈ spans, start ≤ s.1 ∧ Spans text r s.1 s.2)
    (hapart : spans.Pairwise fun s t => s.2 ≤ t.1)
    (hcover : ∀ i k, start ≤ i → Spans text r i k → ∃ s ∈ spans, s.1 ≤ i ∧ s.2 = k) :
    SuccessiveSpans text r start other ↔ other = spans := by
  induction spans generalizing start other with
  | nil =>
    have hnone : ∀ i k, start ≤ i → ¬ Spans text r i k := fun i k hi h => by
      obtain ⟨s, hs, -⟩ := hcover i k hi h
      exact absurd hs List.not_mem_nil
    constructor
    · rintro (_ | ⟨first, ends, -⟩)
      · rfl
      · exact absurd ends (hnone _ _ first.1.1)
    · rintro rfl
      exact .nil hnone
  | cons s spans ih =>
    obtain ⟨i, k⟩ := s
    rw [List.forall_mem_cons] at hspans
    rw [List.pairwise_cons] at hapart
    obtain ⟨⟨hi, hik⟩, hspans⟩ := hspans
    obtain ⟨hbehind, hapart⟩ := hapart
    have hlt : i < k := hne i k hik
    -- behind the first match the others are all that the search finds
    have hrest {other : List (Nat × Nat)} : SuccessiveSpans text r k other ↔ other = spans := by
      refine ih (fun t ht => ⟨hbehind t ht, (hspans t ht).2⟩) hapart fun i' k' hi' h => ?_
      obtain ⟨t, ht, hle, hend⟩ := hcover i' k' (by omega) h
      rcases List.mem_cons.1 ht with rfl | ht
      · -- the first match ends before this one does
        have hlt' : k < k' := Nat.lt_of_le_of_lt hi' (hne i' k' h)
        exact absurd hend (Nat.ne_of_lt hlt')
      · exact ⟨t, ht, hle, hend⟩
    -- no match starts before the first one, and none that starts with it ends elsewhere
    have hfirst {i' k' : Nat} (hi' : start ≤ i') (h : Spans text r i' k') :
        i ≤ i' ∧ (i' = i → k' = k) := by
      obtain ⟨t, ht, hle, hend⟩ := hcover i' k' hi' h
      rcases List.mem_cons.1 ht with rfl | ht
      · exact ⟨hle, fun _ => hend.symm⟩
      · have hlt' : i < i' := Nat.lt_of_lt_of_le hlt (Nat.le_trans (hbehind t ht) hle)
        exact ⟨hlt'.le, fun heq => absurd heq (Nat.ne_of_gt hlt')⟩
    constructor
    · rintro (stops | ⟨first, ends, rest⟩)
      · exact absurd hik (stops i k hi)
      · rename_i i' k' other
        obtain ⟨hle, hend⟩ := hfirst first.1.1 ends
        obtain rfl : i' = i := Nat.le_antisymm (first.2 ⟨hi, k, hik⟩) hle
        obtain rfl := hend rfl
        rw [hrest.1 rest]
    · rintro rfl
      refine .cons ⟨⟨hi, k, hik⟩, ?_⟩ hik (hrest.2 rfl)
      rintro i' ⟨hi', k', h⟩
      exact (hfirst hi' h).1

/-- A repetition without bounds is done, or one more round of it is. -/
theorem spans_star_iff :
    Spans text (.repeated r 0 none) i k ↔
      (i = k ∧ i ≤ text.length) ∨ ∃ j, Spans text r i j ∧ Spans text (.repeated r 0 none) j k := by
  simp only [spans_repeated_iff, Nat.zero_le, reduceCtorEq, false_implies, implies_true, true_and]
  constructor
  · rintro ⟨n, h⟩
    cases n with
    | zero => exact Or.inl h
    | succ n =>
      obtain ⟨j, hj, h⟩ := h
      exact Or.inr ⟨j, hj, n, h⟩
  · rintro (h | ⟨j, hj, n, h⟩)
    · exact ⟨0, h⟩
    · exact ⟨n + 1, j, hj, h⟩

end DashQuery.Pattern

namespace DashQuery.Query

open DashQuery.Pattern

variable {c : Char} {cs : List Char} {i j k : Nat}

/-! ## The pattern -/

/-- The characters of labels. -/
def labelSet : CharSet := .ofRanges [('A', 'Z'), ('a', 'z'), ('0', '9'), ('_', '_')]

/-- The two wildcards. -/
def wildcardSet : CharSet := .ofRanges [('*', '*'), ('?', '?')]

/-- The expression of a label without dots. -/
def wordExpr : Regexp := .repeated (.set labelSet) 1 none

/-- The expression of a label. -/
def labelExpr : Regexp :=
  .row [wordExpr, .repeated (.row [.set (.single '.'), wordExpr]) 0 none]

/-- The expression of a label with a colon and a wildcard behind it. -/
def wildcardExpr : Regexp := .row [.group labelExpr, .set (.single ':'), .set wildcardSet]

/-- The pattern of a label with a colon and a wildcard behind it. -/
def wildcardPattern : String := "([A-Za-z0-9_]+(?:\\.[A-Za-z0-9_]+)*):[*?]"

theorem parse?_wildcardPattern : Regexp.parse? wildcardPattern.toList = some wildcardExpr := by
  decide +kernel

theorem contains_labelSet_iff : labelSet.contains c = true ↔ isLabelChar c = true := by
  rw [isLabelChar_iff, IsWordChar]
  have hset : labelSet = .union (.range 'A' 'Z') (.union (.range 'a' 'z')
    (.union (.range '0' '9') (.union (.single '_') .empty))) := rfl
  rw [hset]
  simp [CharSet.contains]

theorem contains_wildcardSet_iff : wildcardSet.contains c = true ↔ c = '*' ∨ c = '?' := by
  have hset : wildcardSet = .union (.single '*') (.union (.single '?') .empty) := rfl
  rw [hset]
  simp [CharSet.contains]

/-! ## What it spans -/

/-- The expression of a word spans the labels without dots. -/
theorem spans_wordExpr_iff :
    Spans cs wordExpr i j ↔
      j ≤ cs.length ∧ Dotted (cs.extract i j) ∧ '.' ∉ cs.extract i j := by
  have hall : (∀ m c, i ≤ m → m < j → cs[m]? = some c → labelSet.contains c = true) ↔
      (cs.extract i j).all isLabelChar = true := by
    simp only [List.all_eq_true, Text.mem_extract_iff, contains_labelSet_iff]
    constructor
    · rintro h c ⟨m, him, hmj, hm⟩
      exact h m c him hmj hm
    · exact fun h m c him hmj hm => h c ⟨m, him, hmj, hm⟩
  rw [wordExpr, Regexp.spans_repeated_set_iff_forall, hall, and_left_comm]
  refine and_congr_right fun hj => ?_
  have hne : i + 1 ≤ j ↔ cs.extract i j ≠ [] := by
    rw [Text.extract_ne_nil_iff]
    exact (and_iff_left_of_imp fun hij => Nat.lt_of_lt_of_le hij hj).symm
  rw [hne]
  constructor
  · rintro ⟨hsome, hchars⟩
    have hdot : '.' ∉ cs.extract i j := fun hmem =>
      absurd (List.all_eq_true.1 hchars _ hmem) (by decide)
    exact ⟨(dotted_iff_of_not_mem hdot).2 ⟨hsome, hchars⟩, hdot⟩
  · rintro ⟨hdotted, hdot⟩
    exact (dotted_iff_of_not_mem hdot).1 hdotted

/-- The expression of a label spans one word, or a word, a dot and a label. -/
theorem spans_labelExpr_iff_word :
    Spans cs labelExpr i k ↔
      Spans cs wordExpr i k ∨
        ∃ j, Spans cs wordExpr i j ∧ cs[j]? = some '.' ∧ Spans cs labelExpr (j + 1) k := by
  have hlabel {i k : Nat} : Spans cs labelExpr i k ↔
      ∃ j, Spans cs wordExpr i j ∧
        Spans cs (.repeated (.row [.set (.single '.'), wordExpr]) 0 none) j k := by
    rw [labelExpr, Regexp.row_cons, spans_concat_iff]
    simp only [Regexp.spans_row_singleton_iff]
  have hround {j l : Nat} : Spans cs (.row [.set (.single '.'), wordExpr]) j l ↔
      cs[j]? = some '.' ∧ Spans cs wordExpr (j + 1) l := by
    rw [Regexp.row_cons, spans_concat_iff]
    simp only [Regexp.spans_literal_iff, Regexp.spans_row_singleton_iff, and_assoc, exists_eq_left]
  constructor
  · intro h
    obtain ⟨j, hword, hrest⟩ := hlabel.1 h
    rcases spans_star_iff.1 hrest with ⟨rfl, -⟩ | ⟨l, hdot, hrest⟩
    · exact Or.inl hword
    · obtain ⟨hdot, hnext⟩ := hround.1 hdot
      exact Or.inr ⟨j, hword, hdot, hlabel.2 ⟨l, hnext, hrest⟩⟩
  · rintro (hword | ⟨j, hword, hdot, h⟩)
    · exact hlabel.2 ⟨k, hword, spans_star_iff.2 (Or.inl ⟨rfl, (spans_wordExpr_iff.1 hword).1⟩)⟩
    · obtain ⟨l, hnext, hrest⟩ := hlabel.1 h
      exact hlabel.2 ⟨j, hword, spans_star_iff.2 (Or.inr ⟨l, hround.2 ⟨hdot, hnext⟩, hrest⟩)⟩

/-- The expression of a label spans the labels. -/
theorem spans_labelExpr_iff :
    Spans cs labelExpr i j ↔ j ≤ cs.length ∧ Dotted (cs.extract i j) := by
  -- the induction is on how much is left behind `i`
  induction hlength : j - i using Nat.strong_induction_on generalizing i with
  | h n ih =>
    have hrest {m : Nat} (him : i ≤ m) (hmj : m < j) : Spans cs labelExpr (m + 1) j ↔
        j ≤ cs.length ∧ Dotted (cs.extract (m + 1) j) := ih (j - (m + 1)) (by omega) rfl
    rw [spans_labelExpr_iff_word, spans_wordExpr_iff]
    constructor
    · rintro (⟨hj, hword, -⟩ | ⟨m, hword, hdot, h⟩)
      · exact ⟨hj, hword⟩
      · have him := (spans_forward wordExpr).le hword
        have hmj := (spans_forward labelExpr).le h
        obtain ⟨hj, hlabel⟩ := (hrest him hmj).1 h
        rw [Text.extract_eq_append_cons him hmj hdot]
        exact ⟨hj, dotted_append_dot_iff.2 ⟨(spans_wordExpr_iff.1 hword).2.1, hlabel⟩⟩
    · rintro ⟨hj, hlabel⟩
      by_cases hmem : '.' ∈ cs.extract i j
      · -- the label is cut at its first dot
        obtain ⟨word, back, heq, hword⟩ := List.eq_append_cons_of_mem hmem
        obtain ⟨m, him, hmj, hdot, rfl, rfl⟩ := Text.extract_eq_append_cons_iff.1 heq
        rw [heq, dotted_append_dot_iff] at hlabel
        refine Or.inr ⟨m, ?_, hdot, (hrest him hmj).2 ⟨hj, hlabel.2⟩⟩
        exact spans_wordExpr_iff.2 ⟨by omega, hlabel.1, hword⟩
      · exact Or.inl ⟨hj, hlabel, hmem⟩

/-- **The pattern spans what consists of a label, a colon and a wildcard.** -/
theorem spans_wildcardExpr_iff :
    Spans cs wildcardExpr i k ↔
      ∃ j, k = j + 2 ∧ Dotted (cs.extract i j) ∧ cs[j]? = some ':' ∧
        (cs[j + 1]? = some '*' ∨ cs[j + 1]? = some '?') := by
  rw [wildcardExpr, Regexp.row_cons, spans_concat_iff]
  refine exists_congr fun j => ?_
  have hwild : Spans cs (.set wildcardSet) (j + 1) k ↔
      k = j + 2 ∧ (cs[j + 1]? = some '*' ∨ cs[j + 1]? = some '?') := by
    simp only [spans_set_iff, contains_wildcardSet_iff, and_or_left, exists_or, exists_eq_right]
  rw [spans_group_iff, spans_labelExpr_iff, Regexp.row_cons, spans_concat_iff]
  simp only [Regexp.spans_literal_iff, Regexp.spans_row_singleton_iff, and_assoc, exists_eq_left,
    hwild]
  constructor
  · rintro ⟨-, hlabel, hcolon, rfl, hmark⟩
    exact ⟨rfl, hlabel, hcolon, hmark⟩
  · rintro ⟨rfl, hlabel, hcolon, hmark⟩
    have hj : j < cs.length := (List.getElem?_eq_some_iff.1 hcolon).1
    exact ⟨hj.le, hlabel, hcolon, rfl, hmark⟩

end DashQuery.Query

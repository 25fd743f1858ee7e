import Mathlib.Data.List.Induction
import DashQuery.Proofs.WildcardPattern

/-!
# The places of wildcards

The scan for labels passes a selector once and keeps what can still become a label.  Here it is
compared with the places themselves: a colon counts if a wildcard stands right behind it and a
character of a label right in front of it, and its label is the longest one that ends there.  These
labels, with the colon and the wildcard behind them, are the successive matches of the pattern of
wildcards.

* `IsWildcardPlace`, `labelBefore`: the colons that count, and their labels.
* `wildcardLabelsFrom_eq`: the scan in the middle of a text finds the labels of the places that it
  still has to pass.
* `IsWildcardPlace.add_length_le`: the label of a place begins behind the wildcard of every earlier
  place.
* `successiveSpans_wildcardExpr_iff`: the successive matches of the pattern are those of the places.
* `wildcardLabels_eq_map_wildcardPlaces`: the labels found are those of the places, in order, and
  those that the pattern captures.
-/

namespace DashQuery.Query

open DashQuery.Pattern

variable {c : Char} {cs front back label done kept : List Char} {i j k : Nat}

/-! ## Places -/

/-- A colon with a wildcard right behind it and a character of a label right in front of it. -/
structure IsWildcardPlace (cs : List Char) (i : Nat) : Prop where
  colon : cs[i]? = some ':'
  wildcard : cs[i + 1]? = some '*' ∨ cs[i + 1]? = some '?'
  ended : ∃ k c, i = k + 1 ∧ cs[k]? = some c ∧ IsWordChar c

theorem startsWithWildcard_iff :
    startsWithWildcard cs = true ↔ cs[0]? = some '*' ∨ cs[0]? = some '?' := by
  cases cs with
  | nil => simp [startsWithWildcard]
  | cons c cs =>
    by_cases hstar : c = '*'
    · simp [startsWithWildcard, hstar]
    · by_cases hquestion : c = '?'
      · simp [startsWithWildcard, hquestion]
      · simp [startsWithWildcard, hstar, hquestion]

theorem startsWithWildcard_drop_iff :
    startsWithWildcard (cs.drop i) = true ↔ cs[i]? = some '*' ∨ cs[i]? = some '?' := by
  rw [startsWithWildcard_iff, List.getElem?_drop, Nat.add_zero]

/-- A place in terms of the texts in front of it and behind it. -/
theorem isWildcardPlace_iff :
    IsWildcardPlace cs i ↔
      cs[i]? = some ':' ∧ startsWithWildcard (cs.drop (i + 1)) = true ∧
        (cs.take i).getLast?.any isLabelChar = true := by
  have hended (hcolon : cs[i]? = some ':') :
      (cs.take i).getLast?.any isLabelChar = true ↔
        ∃ k c, i = k + 1 ∧ cs[k]? = some c ∧ IsWordChar c := by
    obtain ⟨hi, -⟩ := List.getElem?_eq_some_iff.1 hcolon
    cases i with
    | zero => simp
    | succ k =>
      have hk : cs[k]? = some cs[k] := List.getElem?_eq_getElem (Nat.lt_of_succ_lt hi)
      rw [List.getLast?_take, if_neg (Nat.succ_ne_zero k), Nat.succ_sub_one, hk, Option.some_or,
        Option.any_some, isLabelChar_iff]
      simp [hk]
  constructor
  · rintro ⟨hcolon, hstar, hend⟩
    exact ⟨hcolon, startsWithWildcard_drop_iff.2 hstar, (hended hcolon).2 hend⟩
  · rintro ⟨hcolon, hstar, hend⟩
    exact ⟨hcolon, startsWithWildcard_drop_iff.1 hstar, (hended hcolon).1 hend⟩

instance (cs : List Char) (i : Nat) : Decidable (IsWildcardPlace cs i) :=
  decidable_of_iff _ isWildcardPlace_iff.symm

/-- The place right behind a text. -/
theorem isWildcardPlace_append_cons :
    IsWildcardPlace (front ++ c :: back) front.length ↔
      c = ':' ∧ startsWithWildcard back = true ∧ front.getLast?.any isLabelChar = true := by
  simp [isWildcardPlace_iff]

/-- The places of wildcards in a text, from left to right. -/
def wildcardPlaces (cs : List Char) : List Nat :=
  (List.range cs.length).filter (IsWildcardPlace cs ·)

theorem mem_wildcardPlaces_iff : i ∈ wildcardPlaces cs ↔ IsWildcardPlace cs i := by
  rw [wildcardPlaces, List.mem_filter, List.mem_range, decide_eq_true_iff]
  constructor
  · exact And.right
  · intro h
    obtain ⟨hi, -⟩ := List.getElem?_eq_some_iff.1 h.colon
    exact ⟨hi, h⟩

theorem wildcardPlaces_pairwise (cs : List Char) : (wildcardPlaces cs).Pairwise (· < ·) :=
  List.pairwise_lt_range.filter _

/-! ## Their labels -/

/-- The longest label that a text ends with, if there is one. -/
def labelBefore : List Char → List Char
  | [] => []
  | c :: cs => if Dotted (c :: cs) then c :: cs else labelBefore cs

/-- The label of a place. -/
def labelAt (cs : List Char) (i : Nat) : List Char := labelBefore (cs.take i)

/-- There is only one longest label. -/
theorem LabelBefore.labelBefore_eq (h : LabelBefore front label) : labelBefore front = label := by
  induction front with
  | nil => exact (List.suffix_nil.1 h.suffix).symm
  | cons c front ih =>
    rw [labelBefore]
    split
    · rename_i hdotted
      have hle := h.longest _ List.suffix_rfl hdotted
      exact (h.suffix.eq_of_length_le hle).symm
    · rename_i hdotted
      rcases List.suffix_cons_iff.1 h.suffix with rfl | hsuffix
      · exact absurd h.holds hdotted
      · refine ih ⟨h.holds, hsuffix, fun other hother hd => ?_⟩
        exact h.longest other (hother.trans (List.suffix_cons c front)) hd

/-- The scan keeps some text at every place. -/
theorem exists_kept (front : List Char) :
    ∃ kept : List Char, IsLongestSuffix Unfinished front kept.reverse := by
  induction front using List.reverseRecOn with
  | nil => exact ⟨[], isLongestSuffix_nil⟩
  | append_singleton front c ih =>
    obtain ⟨kept, h⟩ := ih
    exact ⟨_, isLongestSuffix_keep h⟩

/-- A label stands in front of every place that a character of a label stands in front of. -/
theorem labelBefore_labelBefore (h : front.getLast?.any isLabelChar = true) :
    LabelBefore front (labelBefore front) := by
  rcases List.eq_nil_or_concat front with rfl | ⟨init, c, rfl⟩
  · cases h
  · rw [List.concat_eq_append] at h ⊢
    rw [List.getLast?_concat, Option.any_some] at h
    obtain ⟨kept, hkept⟩ := exists_kept init
    have hkeep : keep kept c = c :: kept := if_pos h
    have hlabel : LabelBefore (init ++ [c]) (c :: kept).reverse := by
      rw [labelBefore_iff (hkeep ▸ isLongestSuffix_keep hkept)]
      exact ⟨h, rfl⟩
    rwa [hlabel.labelBefore_eq]

/-- What is kept ends as the text that the scan has passed. -/
theorem head?_any_iff (h : IsLongestSuffix Unfinished done kept.reverse) :
    kept.head?.any isLabelChar = true ↔ done.getLast?.any isLabelChar = true := by
  constructor
  · intro hkept
    have hlabel : LabelBefore done kept.reverse := (labelBefore_iff h).2 ⟨hkept, rfl⟩
    exact hlabel.holds.getLast?_any_of_suffix hlabel.suffix
  · intro hdone
    exact ((labelBefore_iff h).1 (labelBefore_labelBefore hdone)).1

/-- Labels are made of label characters and dots. -/
theorem Dotted.isLabelChar_or_eq (h : Dotted label) (hc : c ∈ label) :
    isLabelChar c = true ∨ c = '.' := by
  refine Classical.byContradiction fun hneither => ?_
  rw [not_or] at hneither
  have hwords : ∀ word ∈ label.splitOn '.', c ∉ word := fun word hword hmem =>
    hneither.1 (List.all_eq_true.1 (h word hword).2 c hmem)
  have hlabel := Text.not_mem_intercalate hneither.2 hwords
  rw [List.intercalate_splitOn] at hlabel
  exact hlabel hc

/-! ## The scan -/

/-- The scan in the middle of a text: `done` is what it has passed. -/
theorem wildcardLabelsFrom_eq (h : IsLongestSuffix Unfinished done kept.reverse) :
    wildcardLabelsFrom kept cs =
      ((List.range' done.length cs.length).filter (IsWildcardPlace (done ++ cs) ·)).map
        (labelAt (done ++ cs)) := by
  induction cs generalizing done kept with
  | nil => rfl
  | cons c cs ih =>
    have hrest := ih (isLongestSuffix_keep (c := c) h)
    rw [List.append_assoc, List.singleton_append, List.length_append, List.length_singleton]
      at hrest
    have hplace : IsWildcardPlace (done ++ c :: cs) done.length ↔
        c = ':' ∧ startsWithWildcard cs = true ∧ kept.head?.any isLabelChar = true := by
      rw [isWildcardPlace_append_cons, head?_any_iff h]
    rw [wildcardLabelsFrom_cons, hrest, List.length_cons, List.range'_succ, List.filter_cons]
    simp only [decide_eq_true_eq, hplace]
    split
    · rename_i hfound
      have hlabel : LabelBefore done kept.reverse := (labelBefore_iff h).2 ⟨hfound.2.2, rfl⟩
      rw [List.map_cons, labelAt, List.take_left, hlabel.labelBefore_eq]
      rfl
    · rfl

/-- The labels found in a whole text. -/
theorem wildcardLabels_eq (cs : List Char) :
    wildcardLabels cs = (wildcardPlaces cs).map (labelAt cs) := by
  rw [wildcardLabels, wildcardLabelsFrom_eq isLongestSuffix_nil, List.nil_append, List.length_nil,
    ← List.range_eq_range', wildcardPlaces]

theorem IsWildcardPlace.labelBefore_labelAt (h : IsWildcardPlace cs j) :
    LabelBefore (cs.take j) (labelAt cs j) :=
  labelBefore_labelBefore (isWildcardPlace_iff.1 h).2.2

/-- The label of a place is the text between where it begins and the place. -/
theorem IsWildcardPlace.labelAt_eq_extract (h : IsWildcardPlace cs j) :
    (labelAt cs j).length ≤ j ∧ labelAt cs j = cs.extract (j - (labelAt cs j).length) j := by
  obtain ⟨hj, -⟩ := List.getElem?_eq_some_iff.1 h.colon
  have hsuffix := h.labelBefore_labelAt.suffix
  have hle := hsuffix.length_le
  have heq := List.suffix_iff_eq_drop.1 hsuffix
  rw [List.length_take_of_le hj.le] at hle heq
  refine ⟨hle, ?_⟩
  rw [List.extract_eq_take_drop, ← List.drop_take]
  exact heq

/-- A label does not reach back over the wildcard of an earlier place. -/
theorem IsWildcardPlace.add_length_le (hi : IsWildcardPlace cs i) (hj : IsWildcardPlace cs j)
    (hlt : i < j) : i + 2 + (labelAt cs j).length ≤ j := by
  obtain ⟨hle, heq⟩ := hj.labelAt_eq_extract
  refine Classical.byContradiction fun hnot => ?_
  -- otherwise the wildcard behind `i` is a character of the label in front of `j`
  have hne : j ≠ i + 1 := by
    rintro rfl
    rcases hi.wildcard with hwild | hwild <;> rw [hj.colon] at hwild <;> cases hwild
  have hmem : ∀ c, cs[i + 1]? = some c → isLabelChar c = true ∨ c = '.' := by
    intro c hc
    refine hj.labelBefore_labelAt.holds.isLabelChar_or_eq ?_
    rw [heq, Text.mem_extract_iff]
    exact ⟨i + 1, by omega, by omega, hc⟩
  rcases hi.wildcard with hwild | hwild
  · exact absurd (hmem _ hwild) (by decide)
  · exact absurd (hmem _ hwild) (by decide)

/-! ## The pattern -/

/-- A label in front of a place reaches no further back than the label of the place. -/
theorem IsWildcardPlace.suffix_labelAt (h : IsWildcardPlace cs j) (hlabel : Dotted label)
    (hsuffix : label <:+ cs.take j) : label <:+ labelAt cs j := by
  have hlongest := h.labelBefore_labelAt
  exact List.suffix_of_suffix_length_le hsuffix hlongest.suffix
    (hlongest.longest label hsuffix hlabel)

theorem extract_suffix_take : cs.extract i j <:+ cs.take j := by
  rw [List.extract_eq_take_drop, ← List.drop_take]
  exact List.drop_suffix i _

/-- A match of the pattern is a label in front of a place, with the colon and the wildcard. -/
theorem spans_wildcardExpr_iff_place :
    Spans cs wildcardExpr i k ↔
      ∃ j, k = j + 2 ∧ IsWildcardPlace cs j ∧ Dotted (cs.extract i j) := by
  rw [spans_wildcardExpr_iff]
  refine exists_congr fun j => and_congr_right fun _ => ?_
  constructor
  · rintro ⟨hlabel, hcolon, hwild⟩
    refine ⟨isWildcardPlace_iff.2 ⟨hcolon, ?_, ?_⟩, hlabel⟩
    · exact startsWithWildcard_drop_iff.2 hwild
    · exact hlabel.getLast?_any_of_suffix extract_suffix_take
  · rintro ⟨hplace, hlabel⟩
    exact ⟨hlabel, hplace.colon, hplace.wildcard⟩

/-- From where the label of a place begins to behind the wildcard of the place. -/
def spanAt (cs : List Char) (j : Nat) : Nat × Nat := (j - (labelAt cs j).length, j + 2)

/-- **The successive matches of the pattern are those of the places.** -/
theorem successiveSpans_wildcardExpr_iff {spans : List (Nat × Nat)} :
    SuccessiveSpans cs wildcardExpr 0 spans ↔ spans = (wildcardPlaces cs).map (spanAt cs) := by
  refine successiveSpans_iff ?_ ?_ ?_ ?_
  · intro i k h
    obtain ⟨j, rfl, -, hlabel⟩ := spans_wildcardExpr_iff_place.1 h
    have hne : cs.extract i j ≠ [] := fun hnil => not_dotted_nil (hnil ▸ hlabel)
    exact Nat.lt_add_right 2 (Text.extract_ne_nil_iff.1 hne).1
  · rw [List.forall_mem_map]
    intro j hj
    have hplace := mem_wildcardPlaces_iff.1 hj
    refine ⟨Nat.zero_le _, spans_wildcardExpr_iff_place.2 ⟨j, rfl, hplace, ?_⟩⟩
    show Dotted (cs.extract (j - (labelAt cs j).length) j)
    rw [← hplace.labelAt_eq_extract.2]
    exact hplace.labelBefore_labelAt.holds
  · rw [List.pairwise_map]
    refine (wildcardPlaces_pairwise cs).imp_of_mem fun {i j} hi hj hlt => ?_
    have := (mem_wildcardPlaces_iff.1 hi).add_length_le (mem_wildcardPlaces_iff.1 hj) hlt
    show i + 2 ≤ j - (labelAt cs j).length
    omega
  · intro i k _ h
    obtain ⟨j, rfl, hplace, hlabel⟩ := spans_wildcardExpr_iff_place.1 h
    refine ⟨_, List.mem_map_of_mem (mem_wildcardPlaces_iff.2 hplace), ?_, rfl⟩
    have hle := (hplace.suffix_labelAt hlabel extract_suffix_take).length_le
    obtain ⟨hj, -⟩ := List.getElem?_eq_some_iff.1 hplace.colon
    rw [List.extract_eq_take_drop, List.length_take, List.length_drop] at hle
    show j - (labelAt cs j).length ≤ i
    omega

/-- **The scan finds the label of every place of a wildcard, in the order of the places, and
nothing else.**  The label of a place is the longest one in front of it.  It begins behind the
wildcard of every earlier place, so no two of the texts found overlap; and wherever a label, a colon
and a wildcard follow each other, the colon is a place and the label is the end of the one found
there, so none is missed.  What a search for the pattern finds one after the other is determined,
and its group captures these labels, all of a match but the colon and the wildcard. -/
theorem wildcardLabels_eq_map_wildcardPlaces (cs : List Char) :
    wildcardLabels cs = (wildcardPlaces cs).map (labelAt cs) ∧
      (wildcardPlaces cs).Pairwise (· < ·) ∧
      (∀ i, i ∈ wildcardPlaces cs ↔ IsWildcardPlace cs i) ∧
      (∀ i ∈ wildcardPlaces cs, LabelBefore (cs.take i) (labelAt cs i)) ∧
      (∀ i ∈ wildcardPlaces cs, ∀ j ∈ wildcardPlaces cs, i < j →
        i + 2 + (labelAt cs j).length ≤ j) ∧
      (∀ front label back, cs = front ++ label ++ ':' :: back → Dotted label →
        startsWithWildcard back = true →
          (front ++ label).length ∈ wildcardPlaces cs ∧
            label <:+ labelAt cs (front ++ label).length) ∧
      Regexp.parse? wildcardPattern.toList = some wildcardExpr ∧
      ∃ spans, (∀ other, SuccessiveSpans cs wildcardExpr 0 other ↔ other = spans) ∧
        wildcardLabels cs = spans.map fun s => cs.extract s.1 (s.2 - 2) := by
  refine ⟨wildcardLabels_eq cs, wildcardPlaces_pairwise cs, fun i => mem_wildcardPlaces_iff,
    fun i hi => (mem_wildcardPlaces_iff.1 hi).labelBefore_labelAt,
    fun i hi j hj => (mem_wildcardPlaces_iff.1 hi).add_length_le (mem_wildcardPlaces_iff.1 hj), ?_,
    parse?_wildcardPattern, _, fun _ => successiveSpans_wildcardExpr_iff, ?_⟩
  · rintro front label back rfl hlabel hwild
    have hsuffix := List.suffix_append front label
    have hplace : IsWildcardPlace (front ++ label ++ ':' :: back) (front ++ label).length :=
      isWildcardPlace_append_cons.2 ⟨rfl, hwild, hlabel.getLast?_any_of_suffix hsuffix⟩
    refine ⟨mem_wildcardPlaces_iff.2 hplace, hplace.suffix_labelAt hlabel ?_⟩
    rwa [List.take_left]
  · rw [wildcardLabels_eq, List.map_map]
    exact List.map_congr_left fun j hj =>
      (mem_wildcardPlaces_iff.1 hj).labelAt_eq_extract.2

end DashQuery.Query

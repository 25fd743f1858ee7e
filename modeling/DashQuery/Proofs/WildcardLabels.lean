import DashQuery.Proofs.Scanning
import DashQuery.Query.Lexer

/-!
# The labels in front of wildcards

The selector is scanned for labels that a wildcard follows without being cut into tokens.  The scan
keeps the text that can still become a label and gives it up at every character that does not fit.

* `Dotted`, `LabelBefore`: which text is a label, and which label stands in front of a place.
* `isLabelChar_iff`: labels are made of ASCII letters, digits and underscores.
* `isLongestSuffix_keep`: what the scan keeps is the longest text in front of its place that can
  still become a label.
* `wildcardLabelsFrom_cons`: what one more character adds to the labels found.
* `mem_wildcardLabels_iff`: the labels found are those in front of a colon and a wildcard.
* `wildcardLabelsFrom_append_break`: at a character that can be part of nothing it looks for, the
  scan starts anew.
-/

namespace DashQuery.Query

variable {c : Char} {cs front back label done kept : List Char}

/-! ## Label characters -/

/-- An ASCII letter, an ASCII digit or an underscore. -/
def IsWordChar (c : Char) : Prop :=
  ('A' ≤ c ∧ c ≤ 'Z') ∨ ('a' ≤ c ∧ c ≤ 'z') ∨ ('0' ≤ c ∧ c ≤ '9') ∨ c = '_'

/-- **The characters of labels.** -/
theorem isLabelChar_iff : isLabelChar c = true ↔ IsWordChar c := by
  have halpha : c.isAlpha = (c.isUpper || c.isLower) := rfl
  have hupper : c.isUpper = true ↔ 'A' ≤ c ∧ c ≤ 'Z' := decide_eq_true_iff
  have hlower : c.isLower = true ↔ 'a' ≤ c ∧ c ≤ 'z' := by
    show (decide ('a' ≤ c) && decide (c ≤ 'z')) = true ↔ _
    rw [Bool.and_eq_true, decide_eq_true_iff, decide_eq_true_iff]
  have hdigit : c.isDigit = true ↔ '0' ≤ c ∧ c ≤ '9' := by
    show (decide ('0' ≤ c) && decide (c ≤ '9')) = true ↔ _
    rw [Bool.and_eq_true, decide_eq_true_iff, decide_eq_true_iff]
  rw [isLabelChar, Char.isAlphanum, halpha, Bool.or_eq_true, Bool.or_eq_true, Bool.or_eq_true,
    hupper, hlower, hdigit, beq_iff_eq, IsWordChar, or_assoc, or_assoc]

/-- The label characters lie between `0` and `z`. -/
theorem toNat_of_isLabelChar (h : isLabelChar c = true) : 48 ≤ c.toNat ∧ c.toNat ≤ 122 := by
  have hrange : ∀ {low high : Char}, low ≤ c ∧ c ≤ high →
      low.toNat ≤ c.toNat ∧ c.toNat ≤ high.toNat := id
  rcases isLabelChar_iff.1 h with h | h | h | rfl
  · have hcode : 65 ≤ c.toNat ∧ c.toNat ≤ 90 := hrange h
    omega
  · have hcode : 97 ≤ c.toNat ∧ c.toNat ≤ 122 := hrange h
    omega
  · have hcode : 48 ≤ c.toNat ∧ c.toNat ≤ 57 := hrange h
    omega
  · decide

/-! ## Labels -/

/-- Words of label characters, joined by single dots. -/
def Dotted (label : List Char) : Prop :=
  ∀ word ∈ label.splitOn '.', word ≠ [] ∧ word.all isLabelChar = true

instance (label : List Char) : Decidable (Dotted label) :=
  inferInstanceAs (Decidable (∀ word ∈ label.splitOn '.', word ≠ [] ∧ word.all isLabelChar = true))

/-- A text that is a label or can become one by more characters behind it. -/
def Unfinished (label : List Char) : Prop :=
  label = [] ∨ Dotted label ∨ ∃ front, Dotted front ∧ label = front ++ ['.']

theorem not_dotted_nil : ¬ Dotted [] := by decide

theorem dotted_append_dot_iff : Dotted (front ++ '.' :: back) ↔ Dotted front ∧ Dotted back := by
  unfold Dotted
  rw [List.splitOn_append_cons_self, List.forall_mem_append]

theorem dotted_iff_of_not_mem (h : '.' ∉ label) :
    Dotted label ↔ label ≠ [] ∧ label.all isLabelChar = true := by
  unfold Dotted
  rw [List.splitOn_eq_singleton h]
  simp only [List.mem_singleton, forall_eq]

/-- A text without dots, or the text behind its last dot. -/
theorem eq_append_dot_or_not_mem (cs : List Char) :
    '.' ∉ cs ∨ ∃ front word, cs = front ++ '.' :: word ∧ '.' ∉ word := by
  by_cases h : '.' ∈ cs
  · obtain ⟨a, b, heq, ha⟩ := List.eq_append_cons_of_mem (List.mem_reverse.2 h)
    refine Or.inr ⟨b.reverse, a.reverse, ?_, fun hmem => ha (List.mem_reverse.1 hmem)⟩
    rw [← List.reverse_reverse cs, heq]
    simp
  · exact Or.inl h

theorem dotted_word_append_iff {word : List Char} (hword : '.' ∉ word) (hc : c ≠ '.') :
    Dotted (word ++ [c]) ↔ isLabelChar c = true ∧ (word = [] ∨ Dotted word) := by
  have hmem : '.' ∉ word ++ [c] := by
    simpa [hword] using hc.symm
  rw [dotted_iff_of_not_mem hmem, dotted_iff_of_not_mem hword]
  by_cases hnil : word = []
  · simp [hnil]
  · simp [hnil, and_comm]

theorem unfinished_append_dot_iff {word : List Char} (hword : '.' ∉ word) :
    Unfinished (front ++ '.' :: word) ↔ Dotted front ∧ (word = [] ∨ Dotted word) := by
  constructor
  · rintro (hnil | hdotted | ⟨label, hlabel, heq⟩)
    · simp at hnil
    · rw [dotted_append_dot_iff] at hdotted
      exact ⟨hdotted.1, Or.inr hdotted.2⟩
    · rcases List.eq_nil_or_concat word with rfl | ⟨init, d, rfl⟩
      · obtain ⟨rfl, -⟩ := List.append_inj' heq rfl
        exact ⟨hlabel, Or.inl rfl⟩
      · rw [List.concat_eq_append, ← List.cons_append, ← List.append_assoc] at heq
        obtain ⟨-, hd⟩ := List.append_inj' heq rfl
        cases hd
        simp at hword
  · rintro ⟨hfront, rfl | hdotted⟩
    · exact Or.inr (Or.inr ⟨front, hfront, rfl⟩)
    · exact Or.inr (Or.inl (dotted_append_dot_iff.2 ⟨hfront, hdotted⟩))

/-- A label grows by a label character only, and out of what can still become a label. -/
theorem dotted_append_singleton_iff :
    Dotted (label ++ [c]) ↔ isLabelChar c = true ∧ Unfinished label := by
  by_cases hc : c = '.'
  · subst hc
    rw [dotted_append_dot_iff]
    constructor
    · exact fun h => absurd h.2 not_dotted_nil
    · exact fun h => absurd h.1 (by decide)
  · rcases eq_append_dot_or_not_mem label with hword | ⟨front, word, rfl, hword⟩
    · rw [dotted_word_append_iff hword hc]
      have hend : ¬ ∃ front, Dotted front ∧ label = front ++ ['.'] := by
        rintro ⟨front, -, rfl⟩
        exact hword (List.mem_append_right _ List.mem_cons_self)
      simp only [Unfinished, hend, or_false]
    · rw [List.append_assoc, List.cons_append, dotted_append_dot_iff,
        dotted_word_append_iff hword hc, unfinished_append_dot_iff hword, and_left_comm]

theorem unfinished_append_singleton_iff :
    Unfinished (label ++ [c]) ↔
      (isLabelChar c = true ∧ Unfinished label) ∨ (c = '.' ∧ Dotted label) := by
  rw [Unfinished, dotted_append_singleton_iff]
  constructor
  · rintro (hnil | hdotted | ⟨front, hfront, heq⟩)
    · simp at hnil
    · exact Or.inl hdotted
    · obtain ⟨rfl, hc⟩ := List.append_inj' heq rfl
      cases hc
      exact Or.inr ⟨rfl, hfront⟩
  · rintro (h | ⟨rfl, hlabel⟩)
    · exact Or.inr (Or.inl h)
    · exact Or.inr (Or.inr ⟨label, hlabel, rfl⟩)

/-- A label ends with a label character. -/
theorem Dotted.getLast?_any (h : Dotted label) : label.getLast?.any isLabelChar = true := by
  rcases List.eq_nil_or_concat label with rfl | ⟨init, c, rfl⟩
  · exact absurd h not_dotted_nil
  · rw [List.concat_eq_append] at h ⊢
    rw [List.getLast?_concat, Option.any_some]
    exact (dotted_append_singleton_iff.1 h).1

/-- What can still become a label is one if it ends with a label character. -/
theorem Unfinished.dotted (h : Unfinished label) (hlast : label.getLast?.any isLabelChar = true) :
    Dotted label := by
  rcases h with rfl | hdotted | ⟨front, -, rfl⟩
  · simp at hlast
  · exact hdotted
  · rw [List.getLast?_concat] at hlast
    exact absurd hlast (by decide)

/-- A text that ends with a label ends with a label character. -/
theorem Dotted.getLast?_any_of_suffix (h : Dotted label) (hsuffix : label <:+ cs) :
    cs.getLast?.any isLabelChar = true := by
  obtain ⟨front, rfl⟩ := hsuffix
  have hlast := h.getLast?_any
  cases hl : label.getLast? with
  | none => simp [hl] at hlast
  | some c =>
    rw [List.getLast?_append, hl, Option.some_or, ← hl]
    exact hlast

/-! ## What the scan keeps -/

/-- The longest text with a property among those that a text ends with. -/
structure IsLongestSuffix (P : List Char → Prop) (cs label : List Char) : Prop where
  holds : P label
  suffix : label <:+ cs
  longest : ∀ other, other <:+ cs → P other → other.length ≤ label.length

/-- The label that stands in front of a place; `front` is all that stands in front of it. -/
def LabelBefore (front label : List Char) : Prop := IsLongestSuffix Dotted front label

/-- What is kept, in reverse, when the scan has passed a character. -/
def keep (kept : List Char) (c : Char) : List Char :=
  if isLabelChar c then c :: kept
  else if c = '.' ∧ kept.head?.any isLabelChar then c :: kept
  else []

theorem isLongestSuffix_nil : IsLongestSuffix Unfinished [] [] :=
  ⟨Or.inl rfl, List.nil_suffix, fun _ h _ => by simp [List.suffix_nil.1 h]⟩

/-- One character grows what is kept, or nothing that ends with it can become a label. -/
theorem isLongestSuffix_keep (h : IsLongestSuffix Unfinished done kept.reverse) :
    IsLongestSuffix Unfinished (done ++ [c]) (keep kept c).reverse := by
  -- what can become a label and ends with `c` is made of such a text in front of `c`
  have hgrow : ∀ other, other <:+ done → Unfinished other →
      (other ++ [c]).length ≤ (c :: kept).reverse.length := by
    intro other hsuffix hother
    have := h.longest other hsuffix hother
    simpa using this
  have hsuffix : (c :: kept).reverse <:+ done ++ [c] := by
    rw [List.reverse_cons, List.suffix_concat_iff]
    exact Or.inr ⟨_, rfl, h.suffix⟩
  unfold keep
  split
  · rename_i hc
    refine ⟨?_, hsuffix, ?_⟩
    · rw [List.reverse_cons, unfinished_append_singleton_iff]
      exact Or.inl ⟨hc, h.holds⟩
    · intro other hother hunfinished
      rcases List.suffix_concat_iff.1 hother with rfl | ⟨t, rfl, ht⟩
      · exact Nat.zero_le _
      · rcases unfinished_append_singleton_iff.1 hunfinished with ⟨-, ht'⟩ | ⟨rfl, -⟩
        · exact hgrow t ht ht'
        · exact absurd hc (by decide)
  · rename_i hc
    split
    · rename_i hdot
      obtain ⟨rfl, hended⟩ := hdot
      rw [← List.getLast?_reverse] at hended
      refine ⟨?_, hsuffix, ?_⟩
      · rw [List.reverse_cons, unfinished_append_singleton_iff]
        exact Or.inr ⟨rfl, h.holds.dotted hended⟩
      · intro other hother hunfinished
        rcases List.suffix_concat_iff.1 hother with rfl | ⟨t, rfl, ht⟩
        · exact Nat.zero_le _
        · rcases unfinished_append_singleton_iff.1 hunfinished with ⟨hlabel, -⟩ | ⟨-, ht'⟩
          · exact absurd hlabel hc
          · exact hgrow t ht (Or.inr (Or.inl ht'))
    · rename_i hdot
      refine ⟨Or.inl rfl, List.nil_suffix, ?_⟩
      intro other hother hunfinished
      rcases List.suffix_concat_iff.1 hother with rfl | ⟨t, rfl, ht⟩
      · exact Nat.zero_le _
      · rcases unfinished_append_singleton_iff.1 hunfinished with ⟨hlabel, -⟩ | ⟨rfl, ht'⟩
        · exact absurd hlabel hc
        · -- a label in front of the dot would have been kept
          have hkept : t <:+ kept.reverse :=
            List.suffix_of_suffix_length_le ht h.suffix
              (h.longest t ht (Or.inr (Or.inl ht')))
          have hended := ht'.getLast?_any_of_suffix hkept
          rw [List.getLast?_reverse] at hended
          exact absurd ⟨rfl, hended⟩ hdot

/-- A label stands in front of a place exactly if the kept text ends with a label character. -/
theorem labelBefore_iff (h : IsLongestSuffix Unfinished front kept.reverse) :
    LabelBefore front label ↔ kept.head?.any isLabelChar = true ∧ label = kept.reverse := by
  rw [← List.getLast?_reverse]
  constructor
  · intro hlabel
    have hsuffix : label <:+ kept.reverse :=
      List.suffix_of_suffix_length_le hlabel.suffix h.suffix
        (h.longest label hlabel.suffix (Or.inr (Or.inl hlabel.holds)))
    have hlast := hlabel.holds.getLast?_any_of_suffix hsuffix
    refine ⟨hlast, hsuffix.eq_of_length_le ?_⟩
    exact hlabel.longest _ h.suffix (h.holds.dotted hlast)
  · rintro ⟨hlast, rfl⟩
    refine ⟨h.holds.dotted hlast, h.suffix, ?_⟩
    exact fun other hother hdotted => h.longest other hother (Or.inr (Or.inl hdotted))

/-! ## What the scan finds -/

/-- A wildcard stands behind a colon, and in front of the colon stands the label. -/
def HasWildcardLabel (cs label : List Char) : Prop :=
  ∃ front back, cs = front ++ ':' :: back ∧ startsWithWildcard back = true ∧ LabelBefore front label

/-- What one more character adds to the labels found. -/
theorem wildcardLabelsFrom_cons :
    wildcardLabelsFrom kept (c :: cs) =
      (if c = ':' ∧ startsWithWildcard cs = true ∧ kept.head?.any isLabelChar = true then
        [kept.reverse] else []) ++ wildcardLabelsFrom (keep kept c) cs := by
  unfold keep
  rw [wildcardLabelsFrom]
  dsimp only
  split
  · rename_i hc
    have hcolon : c ≠ ':' := by
      rintro rfl
      exact absurd hc (by decide)
    simp [hcolon]
  · split
    · rename_i hdot
      simp [hdot.1]
    · split
      · rename_i hfound
        simp [hfound]
      · rename_i hfound
        rw [if_neg fun h => hfound ⟨h.1, h.2.2, h.2.1⟩]
        rfl

theorem mem_wildcardLabelsFrom_cons_iff :
    label ∈ wildcardLabelsFrom kept (c :: cs) ↔
      (c = ':' ∧ startsWithWildcard cs = true ∧ kept.head?.any isLabelChar = true ∧
          label = kept.reverse) ∨
        label ∈ wildcardLabelsFrom (keep kept c) cs := by
  rw [wildcardLabelsFrom_cons, List.mem_append]
  refine or_congr ?_ Iff.rfl
  split
  · rename_i hfound
    simp [hfound]
  · rename_i hfound
    constructor
    · exact fun hmem => absurd hmem List.not_mem_nil
    · exact fun h => absurd ⟨h.1, h.2.1, h.2.2.1⟩ hfound

/-- The scan in the middle of a text: `done` is what it has passed. -/
theorem mem_wildcardLabelsFrom_iff (h : IsLongestSuffix Unfinished done kept.reverse) :
    label ∈ wildcardLabelsFrom kept cs ↔
      ∃ front back, cs = front ++ ':' :: back ∧ startsWithWildcard back = true ∧
        LabelBefore (done ++ front) label := by
  induction cs generalizing done kept with
  | nil => simp [wildcardLabelsFrom]
  | cons c cs ih =>
    rw [mem_wildcardLabelsFrom_cons_iff, ih (isLongestSuffix_keep h)]
    constructor
    · rintro (⟨rfl, hwild, hended⟩ | ⟨front, back, rfl, hwild, hlabel⟩)
      · refine ⟨[], cs, rfl, hwild, ?_⟩
        rw [List.append_nil]
        exact (labelBefore_iff h).2 hended
      · rw [List.append_assoc] at hlabel
        exact ⟨c :: front, back, rfl, hwild, hlabel⟩
    · rintro ⟨front, back, heq, hwild, hlabel⟩
      cases front with
      | nil =>
        cases heq
        rw [List.append_nil] at hlabel
        exact Or.inl ⟨rfl, hwild, (labelBefore_iff h).1 hlabel⟩
      | cons d front =>
        cases heq
        refine Or.inr ⟨front, back, rfl, hwild, ?_⟩
        rwa [List.append_assoc]

/-- **The scan finds the labels in front of a colon and a wildcard, and no others.** -/
theorem mem_wildcardLabels_iff : label ∈ wildcardLabels cs ↔ HasWildcardLabel cs label := by
  have hstart : IsLongestSuffix Unfinished [] (List.reverse []) := isLongestSuffix_nil
  exact mem_wildcardLabelsFrom_iff hstart

/-! ## Where the scan starts anew -/

/-- A character that belongs neither to a label nor to what follows one. -/
def IsBreak (c : Char) : Prop := isLabelChar c = false ∧ c ∉ ['.', ':', '*', '?']

instance (c : Char) : Decidable (IsBreak c) :=
  inferInstanceAs (Decidable (isLabelChar c = false ∧ c ∉ ['.', ':', '*', '?']))

/-- The blanks lie outside the range of the label characters. -/
theorem isBlank_eq_false_of_isLabelChar (h : isLabelChar c = true) : Text.isBlank c = false := by
  have hcode := toNat_of_isLabelChar h
  rw [← Bool.not_eq_true, Text.isBlank, Text.inRanges_iff]
  rintro ⟨range, hrange, hlow, hhigh⟩
  simp only [Text.blankRanges, List.mem_cons, List.not_mem_nil, or_false] at hrange
  rcases hrange with rfl | rfl | rfl | rfl | rfl | rfl | rfl | rfl | rfl | rfl <;> omega

theorem isBreak_of_isBlank (h : Text.isBlank c = true) : IsBreak c := by
  constructor
  · rw [← Bool.not_eq_true]
    intro hlabel
    rw [isBlank_eq_false_of_isLabelChar hlabel] at h
    cases h
  · simp only [List.mem_cons, List.not_mem_nil, or_false]
    rintro (rfl | rfl | rfl | rfl) <;> exact absurd h (by decide)

/-- A wildcard behind a break does not count for a colon in front of the break. -/
theorem startsWithWildcard_append_break (h : IsBreak c) :
    startsWithWildcard (cs ++ c :: back) = startsWithWildcard cs := by
  cases cs with
  | nil =>
    have hstar : c ≠ '*' := fun hc => h.2 (by simp [hc])
    have hquestion : c ≠ '?' := fun hc => h.2 (by simp [hc])
    simp [startsWithWildcard, hstar, hquestion]
  | cons d cs =>
    rw [List.cons_append]
    unfold startsWithWildcard
    split <;> simp_all

/-- **A break ends every label.**  Behind it the scan goes on as at the beginning of a text. -/
theorem wildcardLabelsFrom_append_break (h : IsBreak c) :
    wildcardLabelsFrom kept (cs ++ c :: back) =
      wildcardLabelsFrom kept cs ++ wildcardLabels back := by
  induction cs generalizing kept with
  | nil =>
    have hdot : c ≠ '.' := fun hc => h.2 (by simp [hc])
    have hcolon : c ≠ ':' := fun hc => h.2 (by simp [hc])
    simp [wildcardLabelsFrom, wildcardLabels, h.1, hdot, hcolon]
  | cons d cs ih =>
    rw [List.cons_append, wildcardLabelsFrom, wildcardLabelsFrom,
      startsWithWildcard_append_break h]
    dsimp only
    -- the two scans agree on `d`, and the rest is the induction hypothesis with what is kept
    split
    · exact ih
    · split
      · exact ih
      · split
        · rw [ih, List.cons_append]
        · exact ih

theorem wildcardLabels_append_break (h : IsBreak c) :
    wildcardLabels (cs ++ c :: back) = wildcardLabels cs ++ wildcardLabels back :=
  wildcardLabelsFrom_append_break h

/-- The labels of a row of pieces are those of the pieces. -/
theorem wildcardLabels_intercalate (h : IsBreak c) :
    ∀ pieces : List (List Char),
      wildcardLabels ([c].intercalate pieces) = pieces.flatMap wildcardLabels
  | [] => rfl
  | [p] => by simp
  | p :: q :: pieces => by
    rw [List.intercalate_cons_cons, List.append_assoc, List.singleton_append,
      wildcardLabels_append_break h, wildcardLabels_intercalate h (q :: pieces)]
    rfl

/-- Padding hides no label and makes none. -/
theorem wildcardLabels_padded {padded : List Char} (h : Text.Padded cs padded) :
    wildcardLabels padded = wildcardLabels cs := by
  refine h.read_eq (fun b cs hb => ?_) (fun b cs hb => ?_)
  · have hcut : wildcardLabels ([] ++ b :: cs) = wildcardLabels [] ++ wildcardLabels cs :=
      wildcardLabels_append_break (isBreak_of_isBlank hb)
    exact hcut
  · rw [wildcardLabels_append_break (isBreak_of_isBlank hb)]
    exact List.append_nil _

/-- Without a colon there is no label in front of one. -/
theorem wildcardLabels_eq_nil (h : ':' ∉ cs) : wildcardLabels cs = [] := by
  refine List.eq_nil_iff_forall_not_mem.2 fun label hlabel => ?_
  obtain ⟨front, back, rfl, -, -⟩ := mem_wildcardLabels_iff.1 hlabel
  exact h (by simp)

end DashQuery.Query

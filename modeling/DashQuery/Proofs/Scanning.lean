import Mathlib.Data.List.TakeWhile
import DashQuery.Text.Blank
import DashQuery.Text.Scan

/-!
# Laws of scanning

What the scans of `DashQuery.Text` find in a text that is put together from known parts.

* `cut?_eq_some_iff`, `after?_eq_some_iff`: a text is cut at its first mark and nowhere else.
* `after?_append`, `stripPrefix?_append`: text without the mark behind a text completes nothing.
* `hasInfix_append_cons`: a word without the mark does not reach over a mark, so what occurs in a
  text occurs in one of the parts between its marks.
* `cons_infix_append_cons_iff`: nor does a word that has the mark in front only.
* `trim_eq_self`: a text that neither begins nor ends with a blank is its own trimming.
* `padded_trim`, `trimmed_trim`: trimming takes off all blanks on the ends, and nothing else.
* `Padded.read_eq`: what overlooks a single blank on either end overlooks all padding.
* `join_eq_empty_iff`: which lists of texts are joined to the empty text.
* `mem_join_iff`: which characters occur in the join of texts.
* `pieces_join`: what is joined by a mark is cut into the same pieces again.
-/

namespace DashQuery.Text

variable {mark : Char} {word cs front rest : List Char}

/-! ## Cutting at a mark -/

theorem bne_of_not_mem (h : mark ∉ cs) : ∀ c ∈ cs, (c != mark) = true := by
  intro c hc
  rw [bne_iff_ne]
  rintro rfl
  exact h hc

theorem before_append_cons (h : mark ∉ front) : before mark (front ++ mark :: rest) = front := by
  rw [before, List.takeWhile_append_of_pos (bne_of_not_mem h)]
  simp

theorem not_mem_before : mark ∉ before mark cs := by
  intro h
  have hall := List.all_takeWhile (p := (· != mark)) (l := cs)
  rw [List.all_eq_true] at hall
  simpa using hall mark h

theorem after?_append_cons (h : mark ∉ front) :
    after? mark (front ++ mark :: rest) = some rest := by
  rw [after?, List.dropWhile_append_of_pos (bne_of_not_mem h)]
  simp

/-- What stands behind the first mark. -/
theorem after?_eq_some_iff :
    after? mark cs = some rest ↔ ∃ front, mark ∉ front ∧ cs = front ++ mark :: rest := by
  constructor
  · intro h
    exact ⟨before mark cs, not_mem_before, before_append_after h⟩
  · rintro ⟨front, hfront, rfl⟩
    exact after?_append_cons hfront

/-- There is only one way to cut a text at its first mark. -/
theorem append_cons_inj {front' rest' : List Char} (h : mark ∉ front) (h' : mark ∉ front')
    (heq : front ++ mark :: rest = front' ++ mark :: rest') : front = front' ∧ rest = rest' := by
  have hfront : front = front' :=
    calc front = before mark (front ++ mark :: rest) := (before_append_cons h).symm
      _ = before mark (front' ++ mark :: rest') := by rw [heq]
      _ = front' := before_append_cons h'
  subst hfront
  exact ⟨rfl, by simpa using heq⟩

/-- A mark that occurs once can be cut at in only one way. -/
theorem append_cons_inj_of_single {front' rest' : List Char} (h : mark ∉ front) (hr : mark ∉ rest)
    (heq : front ++ mark :: rest = front' ++ mark :: rest') : front = front' ∧ rest = rest' := by
  refine append_cons_inj h (fun hmem => ?_) heq
  obtain ⟨a, b, rfl, ha⟩ := List.eq_append_cons_of_mem hmem
  rw [List.append_assoc, List.cons_append] at heq
  obtain ⟨-, rfl⟩ := append_cons_inj h ha heq
  exact hr (List.mem_append_right _ List.mem_cons_self)

/-- **A text is cut at its first mark.** -/
theorem cut?_eq_some_iff :
    cut? mark cs = some (front, rest) ↔ mark ∉ front ∧ cs = front ++ mark :: rest := by
  constructor
  · intro h
    obtain ⟨r, hafter, heq⟩ := Option.map_eq_some_iff.1 h
    cases heq
    exact ⟨not_mem_before, before_append_after hafter⟩
  · rintro ⟨hfront, rfl⟩
    rw [cut?, after?_append_cons hfront, before_append_cons hfront]
    rfl

/-- Text behind the first mark is not part of what stands in front of it. -/
theorem before_append_of_mem {tail : List Char} (h : mark ∈ cs) :
    before mark (cs ++ tail) = before mark cs := by
  obtain ⟨front, rest, rfl, hfront⟩ := List.eq_append_cons_of_mem h
  rw [List.append_assoc, List.cons_append, before_append_cons hfront, before_append_cons hfront]

theorem before_eq_self (h : mark ∉ cs) : before mark cs = cs :=
  List.takeWhile_eq_self_iff.2 (bne_of_not_mem h)

/-- What stands behind the part in front of the first mark is empty or begins with the mark. -/
theorem exists_eq_before_append (mark : Char) (cs : List Char) :
    ∃ back, cs = before mark cs ++ back ∧ (back = [] ∨ back.head? = some mark) := by
  by_cases hmem : mark ∈ cs
  · obtain ⟨front, rest, rfl, hfront⟩ := List.eq_append_cons_of_mem hmem
    refine ⟨mark :: rest, ?_, Or.inr rfl⟩
    rw [before_append_cons hfront]
  · refine ⟨[], ?_, Or.inl rfl⟩
    rw [before_eq_self hmem, List.append_nil]

theorem after?_eq_none_iff : after? mark cs = none ↔ mark ∉ cs := by
  rw [Option.eq_none_iff_forall_ne_some]
  constructor
  · intro hnone hmem
    obtain ⟨front, rest, rfl, hfront⟩ := List.eq_append_cons_of_mem hmem
    exact hnone rest (after?_append_cons hfront)
  · rintro hmem rest hsome
    obtain ⟨front, -, rfl⟩ := after?_eq_some_iff.1 hsome
    exact hmem (List.mem_append_right _ List.mem_cons_self)

theorem cut?_eq_none_iff : cut? mark cs = none ↔ mark ∉ cs := by
  rw [cut?, Option.map_eq_none_iff, after?_eq_none_iff]

/-- Text without the mark makes what stands behind the first mark longer, and does nothing else. -/
theorem after?_append {tail : List Char} (h : mark ∉ tail) :
    after? mark (cs ++ tail) = (after? mark cs).map (· ++ tail) := by
  by_cases hmem : mark ∈ cs
  · obtain ⟨front, rest, rfl, hfront⟩ := List.eq_append_cons_of_mem hmem
    rw [List.append_assoc, List.cons_append, after?_append_cons hfront, after?_append_cons hfront]
    rfl
  · rw [after?_eq_none_iff.2 hmem, after?_eq_none_iff.2 (by simp [hmem, h])]
    rfl

/-- A word is not completed by text without its last character. -/
theorem stripPrefix?_append {tail : List Char} (h : ∀ c, word.getLast? = some c → c ∉ tail) :
    stripPrefix? word (cs ++ tail) = (stripPrefix? word cs).map (· ++ tail) := by
  induction word generalizing cs with
  | nil => rfl
  | cons w word ih =>
    rw [List.getLast?_cons] at h
    cases cs with
    | nil =>
      rw [List.nil_append, stripPrefix?, Option.map_none, Option.eq_none_iff_forall_ne_some]
      rintro rest hrest
      rw [stripPrefix?_eq_some_iff] at hrest
      refine h _ rfl (hrest ▸ List.mem_append_left rest ?_)
      exact List.mem_of_getLast? List.getLast?_cons
    | cons c cs =>
      rw [List.cons_append, stripPrefix?, stripPrefix?]
      split
      · exact ih fun c hc => h c (by rw [hc]; rfl)
      · rfl

theorem getLast?_append_cons : (front ++ mark :: rest).getLast? = (mark :: rest).getLast? := by
  rw [List.getLast?_append, List.getLast?_eq_some_getLast (List.cons_ne_nil _ _), Option.some_or]

/-! ## Occurrences of a word -/

theorem hasInfix_eq_true_iff : hasInfix word cs = true ↔ word <:+: cs := by
  rw [hasInfix_iff]
  constructor
  · rintro ⟨b, a, rfl⟩
    exact ⟨b, a, rfl⟩
  · rintro ⟨b, a, rfl⟩
    exact ⟨b, a, rfl⟩

/-- A beginning without the mark lies in front of the mark. -/
theorem prefix_of_prefix_append_cons (hmark : mark ∉ word) (h : word <+: front ++ mark :: rest) :
    word <+: front := by
  induction front generalizing word with
  | nil =>
    cases word with
    | nil => exact List.nil_prefix
    | cons w word =>
      rw [List.nil_append, List.cons_prefix_cons] at h
      exact absurd (List.mem_cons.2 (Or.inl h.1.symm)) hmark
  | cons c front ih =>
    cases word with
    | nil => exact List.nil_prefix
    | cons w word =>
      rw [List.cons_append, List.cons_prefix_cons] at h
      rw [List.cons_prefix_cons]
      exact ⟨h.1, ih (fun hm => hmark (List.mem_cons_of_mem _ hm)) h.2⟩

theorem infix_append_cons_iff (hmark : mark ∉ word) :
    word <:+: front ++ mark :: rest ↔ word <:+: front ∨ word <:+: rest := by
  constructor
  · intro h
    induction front with
    | nil =>
      rw [List.nil_append, List.infix_cons_iff] at h
      rcases h with h | h
      · have : word <+: [] := prefix_of_prefix_append_cons hmark h
        exact Or.inl this.isInfix
      · exact Or.inr h
    | cons c front ih =>
      rw [List.cons_append, List.infix_cons_iff] at h
      rcases h with h | h
      · exact Or.inl (prefix_of_prefix_append_cons hmark h).isInfix
      · rcases ih h with h | h
        · exact Or.inl (List.infix_cons h)
        · exact Or.inr h
  · rintro (h | h)
    · exact h.trans (List.prefix_append _ _).isInfix
    · exact h.trans ((List.suffix_cons _ _).trans (List.suffix_append _ _)).isInfix

/-- **A word without the mark occurs on one side of the mark.** -/
theorem hasInfix_append_cons (hmark : mark ∉ word) :
    hasInfix word (front ++ mark :: rest) = (hasInfix word front || hasInfix word rest) := by
  rw [Bool.eq_iff_iff, Bool.or_eq_true, hasInfix_eq_true_iff, hasInfix_eq_true_iff,
    hasInfix_eq_true_iff, infix_append_cons_iff hmark]

/-- A word that has a mark in front, and nowhere else, does not reach over a mark. -/
theorem cons_infix_append_cons_iff (hmark : mark ∉ word) :
    mark :: word <:+: front ++ mark :: rest ↔
      mark :: word <:+: front ∨ mark :: word <:+: mark :: rest := by
  constructor
  · intro h
    induction front with
    | nil => exact Or.inr h
    | cons c front ih =>
      rw [List.cons_append, List.infix_cons_iff, List.cons_prefix_cons] at h
      rcases h with ⟨rfl, h⟩ | h
      · have hprefix := prefix_of_prefix_append_cons hmark h
        exact Or.inl (List.cons_prefix_cons.2 ⟨rfl, hprefix⟩).isInfix
      · exact (ih h).imp_left List.infix_cons
  · rintro (h | h)
    · exact h.trans (List.prefix_append _ _).isInfix
    · exact h.trans (List.suffix_append _ _).isInfix

theorem hasInfix_eq_false_of_not_mem {c : Char} (hword : c ∈ word) (hcs : c ∉ cs) :
    hasInfix word cs = false := by
  rw [← Bool.not_eq_true, hasInfix_eq_true_iff]
  exact fun h => hcs (h.subset hword)

/-- **A word without the separator occurs in a row of pieces if it occurs in one of them**, and not
otherwise. -/
theorem hasInfix_intercalate (hmark : mark ∉ word) (hne : word ≠ []) :
    ∀ pieces : List (List Char),
      hasInfix word ([mark].intercalate pieces) = pieces.any (hasInfix word)
  | [] => by simpa [hasInfix] using hne
  | [p] => by simp
  | p :: q :: pieces => by
    rw [List.intercalate_cons_cons, List.append_assoc, List.singleton_append,
      hasInfix_append_cons hmark, hasInfix_intercalate hmark hne (q :: pieces)]
    rfl

theorem not_mem_intercalate {separator : Char} (hne : mark ≠ separator) :
    ∀ {pieces : List (List Char)}, (∀ p ∈ pieces, mark ∉ p) →
      mark ∉ [separator].intercalate pieces
  | [], _ => by simp
  | [p], h => by simpa using h p List.mem_cons_self
  | p :: q :: pieces, h => by
    have htail := not_mem_intercalate hne fun x hx => h x (List.mem_cons_of_mem p hx)
    simp [List.intercalate_cons_cons, h p List.mem_cons_self, hne, htail]

/-- A character that is replaced by others does not occur any more. -/
theorem not_mem_replaceChar {c : Char} {image : List Char} (himage : c ∉ image) :
    c ∉ replaceChar c image cs := by
  intro hmem
  obtain ⟨d, -, hd⟩ := List.mem_flatMap.1 hmem
  split at hd
  · exact himage hd
  · rename_i hne
    exact hne (List.mem_singleton.1 hd).symm

/-- Nothing is replaced in a text without the character. -/
theorem replaceChar_eq_self {c : Char} {image : List Char} (h : c ∉ cs) :
    replaceChar c image cs = cs := by
  induction cs with
  | nil => rfl
  | cons d cs ih =>
    rw [List.mem_cons, not_or] at h
    rw [replaceChar, List.flatMap_cons, if_neg (Ne.symm h.1), List.singleton_append]
    exact congrArg _ (ih h.2)

/-- A character that is neither replaced nor put in stays where it was. -/
theorem mem_replaceChar_iff {c d : Char} {image : List Char} (hne : c ≠ d) (himage : c ∉ image) :
    c ∈ replaceChar d image cs ↔ c ∈ cs := by
  rw [replaceChar, List.mem_flatMap]
  constructor
  · rintro ⟨x, hx, hc⟩
    split at hc
    · exact absurd hc himage
    · rw [List.mem_singleton] at hc
      exact hc ▸ hx
  · intro hc
    exact ⟨c, hc, by simp [hne]⟩

/-! ## Trimming -/

/-- A text that neither begins nor ends with a blank. -/
structure Trimmed (cs : List Char) : Prop where
  head : cs.head?.any isBlank = false
  last : cs.getLast?.any isBlank = false

instance (cs : List Char) : Decidable (Trimmed cs) :=
  decidable_of_iff (cs.head?.any isBlank = false ∧ cs.getLast?.any isBlank = false)
    ⟨fun h => ⟨h.1, h.2⟩, fun h => ⟨h.head, h.last⟩⟩

theorem dropWhile_isBlank_eq_self (h : cs.head?.any isBlank = false) :
    cs.dropWhile isBlank = cs := by
  cases cs with
  | nil => rfl
  | cons c cs =>
    rw [List.head?_cons, Option.any_some] at h
    rw [List.dropWhile_cons_of_neg (by simp [h])]

/-- **Nothing is trimmed from a text without blanks on its ends.** -/
theorem trim_eq_self (h : Trimmed cs) : trim cs = cs := by
  have hstart : trimStart cs = cs := dropWhile_isBlank_eq_self h.head
  have hend : cs.reverse.dropWhile isBlank = cs.reverse :=
    dropWhile_isBlank_eq_self (by rw [List.head?_reverse]; exact h.last)
  rw [trim, hstart, trimEnd, hend, List.reverse_reverse]

/-! ## Padding -/

variable {b : Char} {padded : List Char}

/-- A text with any blanks put on its ends. -/
def Padded (cs padded : List Char) : Prop :=
  ∃ front back, front.all isBlank = true ∧ back.all isBlank = true ∧ padded = front ++ cs ++ back

theorem Padded.refl (cs : List Char) : Padded cs cs :=
  ⟨[], [], rfl, rfl, by simp⟩

/-- Only blanks are put around a text. -/
theorem Padded.mem_or_isBlank {c : Char} (h : Padded cs padded) (hc : c ∈ padded) :
    c ∈ cs ∨ isBlank c = true := by
  obtain ⟨front, back, hfront, hback, rfl⟩ := h
  rw [List.mem_append, List.mem_append] at hc
  rcases hc with (hc | hc) | hc
  · exact Or.inr (List.all_eq_true.1 hfront c hc)
  · exact Or.inl hc
  · exact Or.inr (List.all_eq_true.1 hback c hc)

theorem Padded.not_mem {c : Char} (h : Padded cs padded) (hc : c ∉ cs)
    (hblank : isBlank c = false) : c ∉ padded := by
  intro hmem
  rcases h.mem_or_isBlank hmem with hmem | hmem
  · exact hc hmem
  · rw [hblank] at hmem
    cases hmem

/-- **What overlooks one blank on either end of a text overlooks all padding.** -/
theorem Padded.read_eq {α : Type} {read : List Char → α} (h : Padded cs padded)
    (hfront : ∀ b cs, isBlank b = true → read (b :: cs) = read cs)
    (hback : ∀ b cs, isBlank b = true → read (cs ++ [b]) = read cs) : read padded = read cs := by
  obtain ⟨front, back, hblankFront, hblankBack, rfl⟩ := h
  -- the blanks are taken off one by one, first those in front and then those behind
  induction front with
  | nil =>
    rw [List.nil_append]
    induction back generalizing cs with
    | nil => rw [List.append_nil]
    | cons b back ih =>
      rw [List.all_cons, Bool.and_eq_true] at hblankBack
      rw [List.append_cons, ih hblankBack.2, hback b cs hblankBack.1]
  | cons b front ih =>
    rw [List.all_cons, Bool.and_eq_true] at hblankFront
    rw [List.cons_append, List.cons_append, hfront b _ hblankFront.1, ih hblankFront.2]

theorem trim_cons_of_isBlank (h : isBlank b = true) : trim (b :: cs) = trim cs := by
  rw [trim, trimStart, List.dropWhile_cons_of_pos h]
  rfl

theorem trimEnd_append_singleton (h : isBlank b = true) : trimEnd (cs ++ [b]) = trimEnd cs := by
  rw [trimEnd, List.reverse_append, List.reverse_singleton, List.singleton_append,
    List.dropWhile_cons_of_pos h]
  rfl

theorem trim_append_singleton (h : isBlank b = true) : trim (cs ++ [b]) = trim cs := by
  unfold trim trimStart
  rw [List.dropWhile_append]
  split
  · rename_i hblank
    rw [List.isEmpty_iff] at hblank
    rw [hblank, List.dropWhile_cons_of_pos h]
    rfl
  · exact trimEnd_append_singleton h

/-- Padding is trimmed away. -/
theorem Padded.trim_eq (h : Padded cs padded) : trim padded = trim cs :=
  h.read_eq (fun _ _ => trim_cons_of_isBlank) (fun _ _ => trim_append_singleton)

/-- **Trimming takes off blanks and nothing else.** -/
theorem padded_trim (cs : List Char) : Padded (trim cs) cs := by
  have hstart : cs.takeWhile isBlank ++ trimStart cs = cs := List.takeWhile_append_dropWhile
  have hend : trim cs ++ ((trimStart cs).reverse.takeWhile isBlank).reverse = trimStart cs := by
    show (trimEnd (trimStart cs)) ++ _ = _
    rw [trimEnd, ← List.reverse_append, List.takeWhile_append_dropWhile, List.reverse_reverse]
  refine ⟨cs.takeWhile isBlank, ((trimStart cs).reverse.takeWhile isBlank).reverse, ?_, ?_, ?_⟩
  · exact List.all_takeWhile
  · rw [List.all_reverse]
    exact List.all_takeWhile
  · rw [List.append_assoc, hend, hstart]

theorem head?_dropWhile_isBlank (cs : List Char) :
    (cs.dropWhile isBlank).head?.any isBlank = false := by
  have h := List.head?_dropWhile_not isBlank cs
  cases hhead : (cs.dropWhile isBlank).head? with
  | none => rfl
  | some c =>
    rw [hhead] at h
    exact h

/-- **No blank is left on the ends of a trimmed text.** -/
theorem trimmed_trim (cs : List Char) : Trimmed (trim cs) := by
  constructor
  · -- the front of a text begins as the text does, unless it is empty
    obtain ⟨back, hback⟩ : trim cs <+: trimStart cs := by
      rw [trim, trimEnd, ← List.reverse_suffix, List.reverse_reverse]
      exact List.dropWhile_suffix _
    have hhead := head?_dropWhile_isBlank cs
    cases htrim : trim cs with
    | nil => rfl
    | cons c rest =>
      rw [htrim] at hback
      have hstart : cs.dropWhile isBlank = c :: (rest ++ back) := hback.symm
      rw [hstart] at hhead
      exact hhead
  · rw [trim, trimEnd, List.getLast?_reverse]
    exact head?_dropWhile_isBlank _

/-- Nothing is left of blanks, and of every other text something is. -/
theorem trim_eq_nil_iff : trim cs = [] ↔ cs.all isBlank = true := by
  constructor
  · intro h
    obtain ⟨front, back, hfront, hback, hcs⟩ := padded_trim cs
    rw [hcs, h, List.append_nil, List.all_append, hfront, hback]
    rfl
  · intro h
    have hpadded : Padded [] cs := ⟨cs, [], h, rfl, by rw [List.append_nil, List.append_nil]⟩
    rw [hpadded.trim_eq, trim_nil]

/-- Behind a text without blanks on its ends nothing is trimmed.  In front of it the text is trimmed
as before, and the blanks between the two are left. -/
theorem exists_trim_append (cs : List Char) (h : Trimmed word) (hne : word ≠ []) :
    ∃ blanks, blanks.all isBlank = true ∧ trim (cs ++ word) = trim cs ++ blanks ++ word := by
  obtain ⟨front, back, hfront, hback, hcs⟩ := padded_trim cs
  have hlast : ∀ init : List Char, (init ++ word).getLast?.any isBlank = false := by
    intro init
    rw [List.getLast?_append, List.getLast?_eq_some_getLast hne, Option.some_or,
      ← List.getLast?_eq_some_getLast hne]
    exact h.last
  by_cases hnil : trim cs = []
  · refine ⟨[], rfl, ?_⟩
    have hpadded : Padded word (cs ++ word) :=
      ⟨front ++ back, [], by rw [List.all_append, hfront, hback]; rfl, rfl, by
        rw [hcs, hnil, List.append_nil, List.append_nil]⟩
    rw [hpadded.trim_eq, trim_eq_self h, hnil]
    rfl
  · refine ⟨back, hback, ?_⟩
    have hpadded : Padded (trim cs ++ back ++ word) (cs ++ word) :=
      ⟨front, [], hfront, rfl, by simp only [List.append_nil, ← List.append_assoc, ← hcs]⟩
    obtain ⟨c, rest, hcons⟩ := List.exists_cons_of_ne_nil hnil
    have hhead : (trim cs ++ back ++ word).head?.any isBlank = false := by
      have := (trimmed_trim cs).head
      rw [hcons] at this ⊢
      exact this
    rw [hpadded.trim_eq, trim_eq_self ⟨hhead, hlast _⟩]

/-- A word without blanks does not reach into the padding. -/
theorem Padded.hasInfix_eq (h : Padded cs padded) (hne : word ≠ [])
    (hword : ∀ c ∈ word, isBlank c = false) : hasInfix word padded = hasInfix word cs := by
  have hnil : hasInfix word [] = false := by simpa [hasInfix] using hne
  have hblank : ∀ b, isBlank b = true → b ∉ word := by
    intro b hb hmem
    rw [hword b hmem] at hb
    cases hb
  refine h.read_eq (fun b cs hb => ?_) (fun b cs hb => ?_)
  · have hcut : hasInfix word ([] ++ b :: cs) = (hasInfix word [] || hasInfix word cs) :=
      hasInfix_append_cons (hblank b hb)
    rw [hnil, Bool.false_or] at hcut
    exact hcut
  · rw [hasInfix_append_cons (hblank b hb), hnil, Bool.or_false]

/-! ## Joining -/

@[simp] theorem join_nil (separator : String) : join separator [] = "" := rfl

@[simp] theorem join_singleton (separator t : String) : join separator [t] = t := by
  simp [join]

theorem join_cons_cons (separator t u : String) (ts : List String) :
    join separator (t :: u :: ts) = t ++ separator ++ join separator (u :: ts) := by
  simp [join, ← String.toList_inj]

/-- **Texts are joined to the empty text only if there is none, or a single empty one.** -/
theorem join_eq_empty_iff {separator : String} (h : separator ≠ "") {ts : List String} :
    join separator ts = "" ↔ ts = [] ∨ ts = [""] := by
  match ts with
  | [] => simp
  | [t] => simp
  | t :: u :: ts => simp [join_cons_cons, h]

theorem join_append_singleton (separator t : String) :
    ∀ {ts : List String}, ts ≠ [] → join separator (ts ++ [t]) = join separator ts ++ separator ++ t
  | [], h => absurd rfl h
  | [u], _ => by simp [join_cons_cons]
  | u :: v :: ts, _ => by
    rw [List.cons_append, List.cons_append, join_cons_cons, ← List.cons_append,
      join_append_singleton separator t (List.cons_ne_nil _ _), join_cons_cons]
    simp only [String.append_assoc]

/-- Texts that are all preceded by the separator. -/
theorem join_map_append (separator : String) :
    ∀ {ts : List String}, ts ≠ [] →
      String.join (ts.map (separator ++ ·)) = separator ++ join separator ts
  | [], h => absurd rfl h
  | [t], _ => by simp
  | t :: u :: ts, _ => by
    rw [List.map_cons, String.join_cons, join_map_append separator (List.cons_ne_nil u ts),
      join_cons_cons]
    simp only [String.append_assoc]

/-- Whether a character occurs in one of some texts. -/
def OccursIn (c : Char) (ts : List String) : Prop := ∃ t ∈ ts, c ∈ t.toList

instance (c : Char) (ts : List String) : Decidable (OccursIn c ts) :=
  inferInstanceAs (Decidable (∃ t ∈ ts, c ∈ t.toList))

@[simp] theorem not_occursIn_nil (c : Char) : ¬ OccursIn c [] := by
  rintro ⟨t, ht, -⟩
  cases ht

@[simp] theorem occursIn_cons {t : String} {ts : List String} :
    OccursIn c (t :: ts) ↔ c ∈ t.toList ∨ OccursIn c ts := by
  simp [OccursIn]

@[simp] theorem occursIn_append {ts us : List String} :
    OccursIn c (ts ++ us) ↔ OccursIn c ts ∨ OccursIn c us := by
  induction ts with
  | nil => simp
  | cons t ts ih => rw [List.cons_append, occursIn_cons, occursIn_cons, ih, or_assoc]

/-- A character that the text between them does not have occurs in the join of some texts exactly if
it occurs in one of them. -/
theorem mem_join_iff {separator : String} (h : c ∉ separator.toList) :
    ∀ {ts : List String}, c ∈ (join separator ts).toList ↔ OccursIn c ts
  | [] => by simp
  | [t] => by simp
  | t :: u :: ts => by
    rw [join_cons_cons, String.toList_append, String.toList_append, List.mem_append,
      List.mem_append, or_iff_left h, mem_join_iff h, occursIn_cons (t := t)]

/-! ## Pieces -/

/-- A piece between marks has no mark in it. -/
theorem not_mem_of_mem_splitOn {cs piece : List Char} (h : piece ∈ cs.splitOn mark) :
    mark ∉ piece := by
  by_cases hmark : mark ∈ cs
  · obtain ⟨front, rest, hcs, hfront⟩ := List.eq_append_cons_of_mem hmark
    have hshorter : rest.length < cs.length := by simp [hcs]; omega
    rw [hcs, List.splitOn_append_cons_self, List.splitOn_eq_singleton hfront, List.singleton_append,
      List.mem_cons] at h
    obtain rfl | h := h
    · exact hfront
    · exact not_mem_of_mem_splitOn h
  · rw [List.splitOn_eq_singleton hmark, List.mem_singleton] at h
    rwa [h]
termination_by cs.length

theorem not_mem_of_mem_pieces {s piece : String} (h : piece ∈ pieces mark s) :
    mark ∉ piece.toList := by
  obtain ⟨cs, hcs, rfl⟩ := List.mem_map.1 h
  rw [String.toList_ofList]
  exact not_mem_of_mem_splitOn hcs

theorem map_toList_pieces (mark : Char) (s : String) :
    (pieces mark s).map String.toList = s.toList.splitOn mark := by
  simp [pieces, Function.comp_def]

theorem pieces_ne_nil (mark : Char) (s : String) : pieces mark s ≠ [] := by
  simp [pieces]

/-- A text without the mark is one piece. -/
theorem pieces_eq_singleton {s : String} (h : mark ∉ s.toList) : pieces mark s = [s] := by
  rw [pieces, List.splitOn_eq_singleton h, List.map_singleton, String.ofList_toList]

/-- **Pieces without the mark are found again in their join.** -/
theorem pieces_join {separator : String} {ts : List String} (hseparator : separator.toList = [mark])
    (hne : ts ≠ []) (h : ∀ t ∈ ts, mark ∉ t.toList) : pieces mark (join separator ts) = ts := by
  rw [pieces, join, String.toList_ofList, hseparator,
    List.splitOn_intercalate _ (by simpa using h) (by simpa using hne), List.map_map]
  simp [Function.comp_def]

end DashQuery.Text

import Mathlib.Data.Nat.Find
import Mathlib.Order.Bounds.Basic
import DashQuery.Proofs.Lexing
import DashQuery.Proofs.Rows

/-!
# The places of blocks

The scan for a by clause tries the places of a text from left to right and goes on behind a place at
which no block is closed.  So it finds the first block that is closed.  Here both scans for blocks
are compared with the places themselves, the first one at which a block can open and the first one
behind it with a closing brace.  That comes to the same, for an opening that is never closed has no
closing brace behind it, and then no later opening has one either.

* `isLeast_closed_iff`: the first opening with a closing brace behind it is the first opening.
* `selector?_eq_some_iff_place`, `byClause?_eq_some_iff_place`: what the scans find.
* `isLeftmostSpan_iff`: where the pattern of a block has its leftmost match.
* `findsFirstBlock_selector_byClause`: both scans, by places and by patterns.
-/

namespace DashQuery.Text

variable {mark : Char} {cs front rest : List Char} {start i : Nat}

/-! ## The places of a mark -/

/-- The places of a mark in a text, from `start` on. -/
def placesFrom (mark : Char) (start : Nat) (cs : List Char) : Set Nat :=
  {i | start ≤ i ∧ cs[i]? = some mark}

theorem placesFrom_nonempty_iff : (placesFrom mark start cs).Nonempty ↔ mark ∈ cs.drop start := by
  rw [List.mem_iff_getElem?]
  constructor
  · rintro ⟨i, hi, hmark⟩
    exact ⟨i - start, by rw [List.getElem?_drop, Nat.add_sub_cancel' hi, hmark]⟩
  · rintro ⟨n, hn⟩
    rw [List.getElem?_drop] at hn
    exact ⟨start + n, Nat.le_add_right start n, hn⟩

/-- From a later place on there are no more places than from an earlier one on. -/
theorem placesFrom_anti {start' : Nat} (h : start ≤ start') :
    placesFrom mark start' cs ⊆ placesFrom mark start cs :=
  fun _ hi => ⟨Nat.le_trans h hi.1, hi.2⟩

/-- Of some places one is the first. -/
theorem exists_isLeast {places : Set Nat} (h : places.Nonempty) : ∃ i, IsLeast places i := by
  classical
  exact ⟨Nat.find h, Nat.find_spec h, fun _ hi => Nat.find_min' h hi⟩

/-- A condition on the first of some places holds if there is none, or if the first one meets it. -/
theorem forall_isLeast_iff {places : Set Nat} {P : Nat → Prop} :
    (∀ i, IsLeast places i → P i) ↔ places = ∅ ∨ ∃ i, IsLeast places i ∧ P i := by
  constructor
  · intro h
    rcases places.eq_empty_or_nonempty with hempty | hsome
    · exact Or.inl hempty
    · obtain ⟨i, hi⟩ := exists_isLeast hsome
      exact Or.inr ⟨i, hi, h i hi⟩
  · rintro (rfl | ⟨i, hi, hP⟩) i' hi'
    · exact absurd hi'.1 (Set.notMem_empty i')
    · rwa [hi'.unique hi]

/-- A cut at the first mark behind `start`, by the place of the mark. -/
theorem exists_isLeast_of_cut?_drop (h : cut? mark (cs.drop start) = some (front, rest)) :
    ∃ i, IsLeast (placesFrom mark start cs) i ∧ front = cs.extract start i ∧
      rest = cs.drop (i + 1) := by
  obtain ⟨hfront, hdrop⟩ := cut?_eq_some_iff.1 h
  refine ⟨start + front.length, ⟨⟨Nat.le_add_right _ _, ?_⟩, ?_⟩, ?_, ?_⟩
  · rw [← List.getElem?_drop, hdrop]
    simp
  · rintro j ⟨hj, hmark⟩
    refine Nat.le_of_not_lt fun hlt => hfront ?_
    -- an earlier mark would be one of the characters in front of the cut
    have hshort : j - start < front.length := by omega
    have hget : front[j - start]? = some mark := by
      rw [← List.getElem?_append_left hshort, ← hdrop, List.getElem?_drop,
        Nat.add_sub_cancel' hj, hmark]
    exact List.mem_of_getElem? hget
  · rw [List.extract_eq_take_drop, Nat.add_sub_cancel_left, hdrop, List.take_left]
  · rw [Nat.add_assoc, ← List.drop_drop, hdrop, ← List.drop_drop, List.drop_left]
    rfl

/-- **A text is cut at the first place of the mark.** -/
theorem cut?_drop_eq_some_iff :
    cut? mark (cs.drop start) = some (front, rest) ↔
      ∃ i, IsLeast (placesFrom mark start cs) i ∧ front = cs.extract start i ∧
        rest = cs.drop (i + 1) := by
  constructor
  · exact exists_isLeast_of_cut?_drop
  · rintro ⟨i, hi, rfl, rfl⟩
    have hsome : cut? mark (cs.drop start) ≠ none := by
      rw [Ne, cut?_eq_none_iff, not_not]
      exact placesFrom_nonempty_iff.1 ⟨i, hi.1⟩
    obtain ⟨⟨front, rest⟩, hcut⟩ := Option.ne_none_iff_exists'.1 hsome
    obtain ⟨i', hi', rfl, rfl⟩ := exists_isLeast_of_cut?_drop hcut
    obtain rfl := hi.unique hi'
    exact hcut

end DashQuery.Text

namespace DashQuery.Pattern

/-- The leftmost match of an expression in a text reaches from place `i` to place `k`. -/
def IsLeftmostSpan (text : List Char) (r : Regexp) (i k : Nat) : Prop :=
  IsLeast {i | ∃ k, Spans text r i k} i ∧ Spans text r i k

end DashQuery.Pattern

namespace DashQuery.Query

open DashQuery.Pattern

variable {cs front contents rest : List Char} {start width i j k : Nat}

/-! ## The first block -/

/-- The places with a closing brace from `start` on. -/
def closings (start : Nat) (cs : List Char) : Set Nat := Text.placesFrom '}' start cs

/-- The places with an opening brace. -/
def openings (cs : List Char) : Set Nat := Text.placesFrom '{' 0 cs

/-- The places at which what opens a by clause stands and no closing brace follows at once. -/
def byOpenings (cs : List Char) : Set Nat :=
  {i | byOpening <+: cs.drop i ∧ cs[i + byOpening.length]? ≠ some '}'}

theorem block?_drop_eq_some_iff :
    block? (cs.drop start) = some contents ↔
      ∃ j, IsLeast (closings start cs) j ∧ contents = cs.extract start j := by
  have hcut : block? (cs.drop start) = some contents ↔
      ∃ rest, Text.cut? '}' (cs.drop start) = some (contents, rest) := by
    simp only [block?_eq_some_iff, Text.cut?_eq_some_iff, exists_and_left]
  rw [hcut]
  simp only [Text.cut?_drop_eq_some_iff]
  constructor
  · rintro ⟨_, j, hj, rfl, -⟩
    exact ⟨j, hj, rfl⟩
  · rintro ⟨j, hj, rfl⟩
    exact ⟨_, j, hj, rfl, rfl⟩

/-- A block is closed exactly if a closing brace follows. -/
theorem exists_block?_drop_iff :
    (∃ contents, block? (cs.drop start) = some contents) ↔ (closings start cs).Nonempty := by
  simp only [block?_drop_eq_some_iff]
  constructor
  · rintro ⟨_, j, hj, -⟩
    exact ⟨j, hj.1⟩
  · intro h
    obtain ⟨j, hj⟩ := Text.exists_isLeast h
    exact ⟨_, j, hj, rfl⟩

theorem block?_drop_eq_none_iff : block? (cs.drop start) = none ↔ closings start cs = ∅ := by
  rw [← Set.not_nonempty_iff_eq_empty, ← exists_block?_drop_iff, Option.eq_none_iff_forall_ne_some,
    not_exists]

/-- **The first opening with a closing brace behind it is the first opening.**  What closes a later
block stands behind an earlier opening too. -/
theorem isLeast_closed_iff {places : Set Nat} :
    IsLeast {i | i ∈ places ∧ (closings (i + width) cs).Nonempty} i ↔
      IsLeast places i ∧ (closings (i + width) cs).Nonempty := by
  constructor
  · rintro ⟨⟨hi, hclosed⟩, hfirst⟩
    refine ⟨⟨hi, fun i' hi' => ?_⟩, hclosed⟩
    refine Nat.le_of_not_lt fun hlt => ?_
    have hclosed' : (closings (i' + width) cs).Nonempty :=
      hclosed.mono (Text.placesFrom_anti (by omega))
    exact absurd (hfirst ⟨hi', hclosed'⟩) (Nat.not_le_of_lt hlt)
  · rintro ⟨⟨hi, hfirst⟩, hclosed⟩
    exact ⟨⟨hi, hclosed⟩, fun i' hi' => hfirst hi'.1⟩

/-- The first of some openings, `width` characters long, stands at place `i`, and the first closing
brace behind it at place `j`. -/
structure IsFirstBlock (places : Set Nat) (width : Nat) (cs : List Char) (i j : Nat) : Prop where
  opens : IsLeast places i
  closes : IsLeast (closings (i + width) cs) j

/-! ## The selector -/

/-- The text is cut at its first opening brace, and the selector is read behind it. -/
theorem selector?_eq_bind (cs : List Char) :
    selector? cs = (Text.cut? '{' (cs.drop 0)).bind fun cut => block? cut.2 := by
  rw [List.drop_zero, Text.cut?, Option.bind_map]
  rfl

theorem selector?_eq_some_iff_place :
    selector? cs = some contents ↔
      ∃ i, IsLeast (openings cs) i ∧ block? (cs.drop (i + 1)) = some contents := by
  rw [selector?_eq_bind, Option.bind_eq_some_iff]
  constructor
  · rintro ⟨⟨front, rest⟩, hcut, hblock⟩
    obtain ⟨i, hi, -, rfl⟩ := Text.cut?_drop_eq_some_iff.1 hcut
    exact ⟨i, hi, hblock⟩
  · rintro ⟨i, hi, hblock⟩
    exact ⟨_, Text.cut?_drop_eq_some_iff.2 ⟨i, hi, rfl, rfl⟩, hblock⟩

/-! ## The by clause -/

theorem isByBlock_append_iff :
    IsByBlock (front ++ rest) front contents ↔ IsByBlock rest [] contents := by
  simp [IsByBlock, IsBlock]

/-- The contents of a block are empty exactly if it is closed at once. -/
theorem eq_nil_iff_of_block? (h : block? rest = some contents) :
    contents = [] ↔ rest[0]? = some '}' := by
  obtain ⟨hc, back, rfl⟩ := block?_eq_some_iff.1 h
  cases contents with
  | nil => simp
  | cons c contents =>
    have hne : c ≠ '}' := fun heq => hc (heq ▸ List.mem_cons_self)
    simp [hne]

/-- A block that can be read as a by clause is one at the front of what follows a place. -/
theorem exists_isByBlock_iff_drop :
    (∃ front, front.length = i ∧ IsByBlock cs front contents) ↔
      IsByBlock (cs.drop i) [] contents := by
  constructor
  · rintro ⟨front, rfl, hblock⟩
    obtain ⟨⟨-, back, hcs⟩, -⟩ := id hblock
    rw [List.append_assoc] at hcs
    rw [hcs] at hblock ⊢
    rw [List.drop_left]
    exact isByBlock_append_iff.1 hblock
  · intro hblock
    have hi : i < cs.length := by
      refine Nat.lt_of_not_le fun hle => ?_
      rw [List.drop_eq_nil_of_le hle] at hblock
      obtain ⟨⟨-, back, hnil⟩, -⟩ := hblock
      simp [byWord] at hnil
    refine ⟨cs.take i, List.length_take_of_le hi.le, ?_⟩
    have hfront : IsByBlock (cs.take i ++ cs.drop i) (cs.take i) contents :=
      isByBlock_append_iff.2 hblock
    rwa [List.take_append_drop] at hfront

/-- The blocks that can be read as a by clause, by the places at which they open. -/
theorem exists_isByBlock_iff :
    (∃ front, front.length = i ∧ IsByBlock cs front contents) ↔
      i ∈ byOpenings cs ∧ block? (cs.drop (i + byOpening.length)) = some contents := by
  have hrest {rest : List Char} (hdrop : cs.drop i = byOpening ++ rest) :
      cs.drop (i + byOpening.length) = rest := by
    rw [← List.drop_drop, hdrop, List.drop_left]
  -- the contents are empty exactly if a closing brace stands right behind the opening
  have hnil (hblock : block? (cs.drop (i + byOpening.length)) = some contents) :
      contents = [] ↔ cs[i + byOpening.length]? = some '}' := by
    rw [eq_nil_iff_of_block? hblock, List.getElem?_drop, Nat.add_zero]
  rw [exists_isByBlock_iff_drop, isByBlock_nil_iff, Option.bind_eq_some_iff]
  constructor
  · rintro ⟨⟨rest, hstrip, hblock⟩, hne⟩
    have hdrop := Text.stripPrefix?_eq_some_iff.1 hstrip
    rw [← hrest hdrop] at hblock
    exact ⟨⟨⟨rest, hdrop.symm⟩, fun hclose => hne ((hnil hblock).2 hclose)⟩, hblock⟩
  · rintro ⟨⟨⟨rest, hdrop⟩, hopen⟩, hblock⟩
    refine ⟨⟨rest, Text.stripPrefix?_eq_some_iff.2 hdrop.symm, ?_⟩, fun hempty => ?_⟩
    · rwa [hrest hdrop.symm] at hblock
    · exact hopen ((hnil hblock).1 hempty)

theorem byClause?_eq_some_iff_place :
    byClause? cs = some contents ↔
      ∃ i, IsLeast (byOpenings cs) i ∧ block? (cs.drop (i + byOpening.length)) = some contents := by
  rw [byClause?_eq_some_iff]
  constructor
  · rintro ⟨front, hblock, hfirst⟩
    obtain ⟨hopen, hcontents⟩ := exists_isByBlock_iff.1 ⟨front, rfl, hblock⟩
    have hclosed := exists_block?_drop_iff.1 ⟨contents, hcontents⟩
    refine ⟨front.length, (isLeast_closed_iff.1 ⟨⟨hopen, hclosed⟩, ?_⟩).1, hcontents⟩
    rintro i ⟨hopen', hclosed'⟩
    obtain ⟨contents', hcontents'⟩ := exists_block?_drop_iff.2 hclosed'
    obtain ⟨front', rfl, hblock'⟩ := exists_isByBlock_iff.2 ⟨hopen', hcontents'⟩
    exact hfirst front' contents' hblock'
  · rintro ⟨i, hi, hcontents⟩
    obtain ⟨front, rfl, hblock⟩ := exists_isByBlock_iff.2 ⟨hi.1, hcontents⟩
    refine ⟨front, hblock, fun front' contents' hblock' => hi.2 ?_⟩
    exact (exists_isByBlock_iff.1 ⟨front', rfl, hblock'⟩).1

/-! ## The patterns of blocks -/

/-- The characters that do not close a block. -/
def insideSet : CharSet := .complement (.union (.single '}') .empty)

theorem contains_insideSet_iff {c : Char} : insideSet.contains c = true ↔ c ≠ '}' := by
  have hunion : insideSet.contains c = !((CharSet.single '}').contains c || false) := rfl
  rw [hunion, Bool.or_false, Bool.not_eq_true', ← Bool.not_eq_true, CharSet.contains_single]

/-- The expression of a block: an opening, at least `lo` characters that do not close the block, and
the brace that does. -/
def blockExpr (opening : List Char) (lo : Nat) : Regexp :=
  .row (Regexp.literals opening ++
    [.group (.row [.repeated (.set insideSet) lo none]), .set (.single '}')])

/-- The pattern of a selector. -/
def selectorPattern : String := "\\\x7b([^\x7d]*)\\\x7d"

/-- The pattern of a by clause. -/
def byClausePattern : String := "by \\\x7b([^\x7d]+)\\\x7d"

theorem parse?_selectorPattern :
    Regexp.parse? selectorPattern.toList = some (blockExpr ['{'] 0) := by
  decide +kernel

theorem parse?_byClausePattern :
    Regexp.parse? byClausePattern.toList = some (blockExpr byOpening 1) := by
  decide +kernel

/-- The expression of a block spans what reaches from an opening to the first closing brace behind
it, if there is enough between the two. -/
theorem spans_blockExpr_iff {opening : List Char} {lo : Nat} :
    Spans cs (blockExpr opening lo) i k ↔
      opening <+: cs.drop i ∧ ∃ j, k = j + 1 ∧ IsLeast (closings (i + opening.length) cs) j ∧
        i + opening.length + lo ≤ j := by
  rw [blockExpr, Regexp.spans_row_literals_iff, Regexp.row_cons, spans_concat_iff]
  simp only [spans_group_iff, Regexp.spans_row_singleton_iff,
    Regexp.spans_repeated_set_iff_forall, Regexp.spans_literal_iff, contains_insideSet_iff]
  refine and_congr_right fun _ => exists_congr fun j => ?_
  constructor
  · rintro ⟨⟨hlo, -, hinside⟩, rfl, hclose⟩
    refine ⟨rfl, ⟨⟨by omega, hclose⟩, ?_⟩, hlo⟩
    rintro m ⟨hm, hmark⟩
    exact Nat.le_of_not_lt fun hlt => hinside m '}' hm hlt hmark rfl
  · rintro ⟨rfl, ⟨⟨-, hclose⟩, hfirst⟩, hlo⟩
    have hj : j < cs.length := (List.getElem?_eq_some_iff.1 hclose).1
    refine ⟨⟨hlo, hj.le, fun m c hm hlt hc => ?_⟩, rfl, hclose⟩
    rintro rfl
    exact Nat.not_le_of_lt hlt (hfirst ⟨hm, hc⟩)

theorem spans_selector_iff :
    Spans cs (blockExpr ['{'] 0) i k ↔
      i ∈ openings cs ∧ ∃ j, k = j + 1 ∧ IsLeast (closings (i + 1) cs) j := by
  have hopen : ['{'] <+: cs.drop i ↔ i ∈ openings cs := by
    constructor
    · rintro ⟨rest, hdrop⟩
      exact ⟨Nat.zero_le i, (drop_eq_cons_iff.1 hdrop.symm).1⟩
    · rintro ⟨-, hi⟩
      exact ⟨_, (drop_eq_cons_iff.2 ⟨hi, rfl⟩).symm⟩
  rw [spans_blockExpr_iff, hopen]
  refine and_congr_right fun _ => exists_congr fun j => and_congr_right fun _ => ?_
  exact and_iff_left_of_imp fun hj => hj.1.1

/-- A by clause may not be closed at once. -/
theorem spans_byClause_iff :
    Spans cs (blockExpr byOpening 1) i k ↔
      i ∈ byOpenings cs ∧ ∃ j, k = j + 1 ∧ IsLeast (closings (i + byOpening.length) cs) j := by
  rw [spans_blockExpr_iff, byOpenings, Set.mem_ofPred_eq, and_assoc]
  refine and_congr_right fun _ => ?_
  constructor
  · rintro ⟨j, rfl, hj, hlo⟩
    refine ⟨fun hclose => ?_, j, rfl, hj⟩
    exact Nat.not_le_of_lt hlo (hj.2 ⟨Nat.le_refl _, hclose⟩)
  · rintro ⟨hopen, j, rfl, hj⟩
    refine ⟨j, rfl, hj, Nat.lt_of_le_of_ne hj.1.1 ?_⟩
    rintro rfl
    exact hopen hj.1.2

/-- **The leftmost match of a pattern of blocks is the first block.** -/
theorem isLeftmostSpan_iff {r : Regexp} {places : Set Nat}
    (h : ∀ i k, Spans cs r i k ↔
      i ∈ places ∧ ∃ j, k = j + 1 ∧ IsLeast (closings (i + width) cs) j) :
    IsLeftmostSpan cs r i k ↔ ∃ j, k = j + 1 ∧ IsFirstBlock places width cs i j := by
  have hsome (i : Nat) :
      (∃ k, Spans cs r i k) ↔ i ∈ places ∧ (closings (i + width) cs).Nonempty := by
    simp only [h, exists_and_left]
    refine and_congr_right fun _ => ⟨?_, fun hclosed => ?_⟩
    · rintro ⟨_, j, rfl, hj⟩
      exact ⟨j, hj.1⟩
    · obtain ⟨j, hj⟩ := Text.exists_isLeast hclosed
      exact ⟨j + 1, j, rfl, hj⟩
  rw [IsLeftmostSpan, Set.ext (fun i => hsome i), isLeast_closed_iff, h]
  constructor
  · rintro ⟨⟨hi, -⟩, -, j, rfl, hj⟩
    exact ⟨j, rfl, hi, hj⟩
  · rintro ⟨j, rfl, hi, hj⟩
    exact ⟨⟨hi, j, hj.1⟩, hi.1, j, rfl, hj⟩

/-! ## The scans for blocks -/

/-- A scan that finds the contents of the first block: they stand between the first of some openings
and the first closing brace behind it.  Its pattern has its leftmost match there. -/
structure FindsFirstBlock (scan : List Char → Option (List Char)) (pattern : String)
    (places : List Char → Set Nat) (width : Nat) : Prop where
  some_iff : ∀ cs contents, scan cs = some contents ↔
    ∃ i j, IsFirstBlock (places cs) width cs i j ∧ contents = cs.extract (i + width) j
  none_iff : ∀ cs, scan cs = none ↔
    places cs = ∅ ∨ ∃ i, IsLeast (places cs) i ∧ closings (i + width) cs = ∅
  leftmost : ∃ r, Regexp.parse? pattern.toList = some r ∧ ∀ cs i k,
    IsLeftmostSpan cs r i k ↔ ∃ j, k = j + 1 ∧ IsFirstBlock (places cs) width cs i j

/-- A scan that reads a block behind the first opening finds the first block, and so does a pattern
that spans what reaches from an opening to the closing brace. -/
theorem findsFirstBlock_of {scan : List Char → Option (List Char)} {pattern : String} {r : Regexp}
    {places : List Char → Set Nat}
    (hscan : ∀ cs contents, scan cs = some contents ↔
      ∃ i, IsLeast (places cs) i ∧ block? (cs.drop (i + width)) = some contents)
    (hpattern : Regexp.parse? pattern.toList = some r)
    (hspans : ∀ cs i k, Spans cs r i k ↔
      i ∈ places cs ∧ ∃ j, k = j + 1 ∧ IsLeast (closings (i + width) cs) j) :
    FindsFirstBlock scan pattern places width where
  some_iff cs contents := by
    rw [hscan]
    simp only [block?_drop_eq_some_iff]
    constructor
    · rintro ⟨i, hi, j, hj, rfl⟩
      exact ⟨i, j, ⟨hi, hj⟩, rfl⟩
    · rintro ⟨i, j, ⟨hi, hj⟩, rfl⟩
      exact ⟨i, hi, j, hj, rfl⟩
  none_iff cs := by
    rw [← Text.forall_isLeast_iff]
    simp only [Option.eq_none_iff_forall_ne_some, Ne, hscan, ← block?_drop_eq_none_iff]
    constructor
    · intro h i hi contents hblock
      exact h contents ⟨i, hi, hblock⟩
    · rintro h contents ⟨i, hi, hblock⟩
      exact h i hi contents hblock
  leftmost := ⟨r, hpattern, fun _ _ _ => isLeftmostSpan_iff (hspans _)⟩

/-- **Both scans for blocks find first occurrences.**  The selector stands between the first opening
brace and the first closing brace behind it, the by clause between the leftmost `by {` that is not
closed at once and the first closing brace behind it.  Nothing is found exactly if there is no such
opening or no closing brace behind the first one.  In both cases that is where a search for the
pattern has its leftmost match, though it may fail at one opening and go on to a later one.  What is
found has no closing brace in it, and a by clause is not empty. -/
theorem findsFirstBlock_selector_byClause :
    FindsFirstBlock selector? selectorPattern openings 1 ∧
      FindsFirstBlock byClause? byClausePattern byOpenings byOpening.length ∧
      (∀ cs contents, selector? cs = some contents → '}' ∉ contents) ∧
      ∀ cs contents, byClause? cs = some contents → '}' ∉ contents ∧ contents ≠ [] := by
  refine ⟨?_, ?_, fun cs contents h => ?_, fun cs contents h => ?_⟩
  · exact findsFirstBlock_of (fun _ _ => selector?_eq_some_iff_place) parse?_selectorPattern
      fun _ _ _ => spans_selector_iff
  · exact findsFirstBlock_of (fun _ _ => byClause?_eq_some_iff_place) parse?_byClausePattern
      fun _ _ _ => spans_byClause_iff
  · obtain ⟨_, hblock, -⟩ := selector?_eq_some_iff.1 h
    exact hblock.1
  · obtain ⟨_, ⟨hblock, hne⟩, -⟩ := byClause?_eq_some_iff.1 h
    exact ⟨hblock.1, hne⟩

/-- An empty block is no by clause, and braces do not nest in the one behind it. -/
theorem byClause?_behind_empty_block :
    byClause? "\x7dby \x7b\x7dby \x7ba\x7bb\x7dc\x7d".toList = some "a\x7bb".toList ∧
      '}' ∉ "a\x7bb".toList ∧ "a\x7bb".toList ≠ [] ∧
      selector? "\x7dby \x7b\x7dby \x7ba\x7bb\x7dc\x7d".toList = some [] := by
  have hclause : byClause? "\x7dby \x7b\x7dby \x7ba\x7bb\x7dc\x7d".toList =
      some "a\x7bb".toList := by decide
  obtain ⟨hclosed, hne⟩ := findsFirstBlock_selector_byClause.2.2.2 _ _ hclause
  exact ⟨hclause, hclosed, hne, by decide⟩

end DashQuery.Query

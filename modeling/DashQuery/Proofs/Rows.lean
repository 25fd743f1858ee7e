import DashQuery.Proofs.EndAnchor

/-!
# Patterns that are rows of items

Outside brackets a few characters are operators, and every other one is an item that matches itself.
A pattern in which nothing is opened and no branch ends is a row of items, each of which the machine
puts behind those before it.

* `run_ofItems_cons`: one token of such a pattern.
* `State.finish?_ofItems`: the expression is the row of the items.
* `Regexp.spans_row_literals_iff`: literal characters at the front of a row span themselves.
* `Regexp.spans_repeated_set_iff_forall`: what a repeated set spans.
-/

namespace DashQuery.Pattern

/-! ## Characters that stand for themselves -/

/-- The characters that do not stand for themselves outside brackets. -/
def operators : List Char := ['(', ')', '|', '[', '?', '*', '+', '\x7b', '.', '^', '$', '\\']

theorem readOutside?_of_not_operator {f : Flags} {c : Char} {cs : List Char} (h : c ∉ operators) :
    readOutside? f c cs = some (.leaf (.set (f.literal c)), cs) := by
  unfold readOutside?
  split <;> first | rfl | exact absurd (by decide) h

/-! ## Reading items -/

/-- The flags of which at most the one that lets a dot match the end of a line is set. -/
def Flags.dotted (dotAll : Bool) : Flags := { Flags.initial with dotAll := dotAll }

variable {dotAll : Bool} {items : List (Part Regexp)} {c : Char} {cs rest : List Char}

/-- The characters that a dot matches. -/
def dotSet (dotAll : Bool) : CharSet := if dotAll then .all else .complement (.single '\n')

theorem dot?_dotted (dotAll : Bool) : (Flags.dotted dotAll).dot? = some (dotSet dotAll) := by
  cases dotAll <;> rfl

theorem contains_dotSet_iff :
    (dotSet dotAll).contains c = true ↔ dotAll = true ∨ c ≠ '\n' := by
  cases dotAll with
  | true => exact iff_of_true rfl (.inl rfl)
  | false =>
    have hcomplement : (dotSet false).contains c = !(CharSet.single '\n').contains c := rfl
    rw [hcomplement, Bool.not_eq_true', ← Bool.not_eq_true, CharSet.contains_single]
    simp

/-- The state in which nothing but a row of items has been read, the last one first. -/
def State.ofItems (dotAll : Bool) (items : List (Part Regexp)) : State :=
  ⟨⟨.dotted dotAll, false, [], items, !items.isEmpty⟩, [], [], []⟩

/-- The expression that a pattern stands for, where a dot may match the end of a line or not. -/
def Regexp.parseDotted? (dotAll : Bool) (pattern : List Char) : Option Regexp :=
  (run (.ofItems dotAll []) pattern).bind State.finish?

theorem Regexp.parseDotted?_false (pattern : List Char) :
    parseDotted? false pattern = parse? pattern := rfl

theorem run_ofItems_cons {token : Token} {s : State}
    (hread : readOutside? (.dotted dotAll) c cs = some (token, rest))
    (hstep : (State.ofItems dotAll items).step? token = some s) :
    run (.ofItems dotAll items) (c :: cs) = run s rest := by
  have hskip : (State.ofItems dotAll items).group.flags.skip (c :: cs) = c :: cs := rfl
  have hread' : (State.ofItems dotAll items).read? c cs = some (token, rest) := hread
  rw [run_cons hskip, hread', Option.bind_some, hstep, Option.bind_some]

/-- A character, class or assertion is one more item. -/
theorem run_ofItems_leaf {r : Regexp}
    (hread : readOutside? (.dotted dotAll) c cs = some (.leaf r, rest)) :
    run (.ofItems dotAll items) (c :: cs) = run (.ofItems dotAll (⟨r, 0⟩ :: items)) rest :=
  run_ofItems_cons hread rfl

theorem run_ofItems_dot :
    run (.ofItems dotAll items) ('.' :: cs) =
      run (.ofItems dotAll (⟨.set (dotSet dotAll), 0⟩ :: items)) cs := by
  refine run_ofItems_leaf ?_
  rw [readOutside?, dot?_dotted, Option.map_some]

/-- A star repeats the last item. -/
theorem run_ofItems_star {item : Part Regexp} :
    run (.ofItems dotAll (item :: items)) ('*' :: cs) =
      run (.ofItems dotAll (⟨.repeated item.value 0 none, item.depth + 1⟩ :: items))
        (skipLazy cs) :=
  run_ofItems_cons rfl rfl

/-! ## The row -/

namespace Regexp

/-- Expressions one after the other. -/
def row (rs : List Regexp) : Regexp := rs.foldr concat empty

theorem row_cons (r : Regexp) (rs : List Regexp) : row (r :: rs) = concat r (row rs) := rfl

theorem ofReversed_eq_row (rs : List Regexp) : ofReversed rs = row rs.reverse := by
  rw [ofReversed, row, List.foldr_reverse]

end Regexp

/-- A row is at most one deeper than its items. -/
theorem rowDepth_le {depths : List Nat} {d : Nat} (h : ∀ e ∈ depths, e ≤ d) :
    rowDepth depths ≤ d + 1 := by
  have hmax : depths.foldl max 0 ≤ d := by
    suffices ∀ a ≤ d, depths.foldl max a ≤ d from this 0 (Nat.zero_le d)
    induction depths with
    | nil => exact fun a ha => ha
    | cons e depths ih =>
      rw [List.forall_mem_cons] at h
      exact fun a ha => ih h.2 (max a e) (Nat.max_le.2 ⟨ha, h.1⟩)
  match depths with
  | [] => exact Nat.zero_le _
  | [e] => exact Nat.le_succ_of_le (h e List.mem_cons_self)
  | e :: e' :: depths => exact Nat.succ_le_succ hmax

/-- If its items are not too deep, what has been read is their row. -/
theorem State.finish?_ofItems (h : ∀ item ∈ items, item.depth < maxDepth) :
    (State.ofItems dotAll items).finish? = some (.row (items.reverse.map (·.value))) := by
  have hdepth : rowDepth (items.map (·.depth)) ≤ maxDepth := by
    refine rowDepth_le (d := maxDepth - 1) (List.forall_mem_map.2 fun item hitem => ?_)
    exact Nat.le_pred_of_lt (h item hitem)
  rw [State.finish?_eq_some_iff]
  refine ⟨rfl, rfl, hdepth, ?_⟩
  rw [List.map_reverse, ← Regexp.ofReversed_eq_row]
  rfl

/-! ## What a row spans -/

theorem drop_eq_cons_iff {text : List Char} {i : Nat} :
    text.drop i = c :: cs ↔ text[i]? = some c ∧ text.drop (i + 1) = cs := by
  by_cases hi : i < text.length
  · rw [List.drop_eq_getElem_cons hi, List.cons.injEq, List.getElem?_eq_getElem hi, Option.some_inj]
  · have hlen : text.length ≤ i := Nat.le_of_not_lt hi
    simp [List.drop_eq_nil_of_le hlen, List.getElem?_eq_none hlen]

namespace Regexp

variable {text word : List Char} {rs : List Regexp} {i k : Nat}

/-- Characters as items of a row. -/
def literals (word : List Char) : List Regexp := word.map fun c => .set (.single c)

theorem literals_cons : literals (c :: word) = .set (.single c) :: literals word := rfl

theorem spans_literal_iff {j : Nat} :
    Spans text (.set (.single c)) i j ↔ j = i + 1 ∧ text[i]? = some c := by
  rw [spans_set_iff]
  simp

/-- **Literal characters at the front of a row** span themselves. -/
theorem spans_row_literals_iff :
    Spans text (row (literals word ++ rs)) i k ↔
      word <+: text.drop i ∧ Spans text (row rs) (i + word.length) k := by
  induction word generalizing i with
  | nil => simp [literals]
  | cons c word ih =>
    rw [literals_cons, List.cons_append, row_cons, spans_concat_iff, List.length_cons,
      Nat.add_comm word.length, ← Nat.add_assoc]
    simp only [spans_literal_iff, ih]
    constructor
    · rintro ⟨_, ⟨rfl, hc⟩, ⟨back, hback⟩, hrest⟩
      have hdrop : text.drop i = c :: (word ++ back) := drop_eq_cons_iff.2 ⟨hc, hback.symm⟩
      exact ⟨⟨back, hdrop.symm⟩, hrest⟩
    · rintro ⟨⟨back, hback⟩, hrest⟩
      obtain ⟨hc, hdrop⟩ := drop_eq_cons_iff.1 hback.symm
      exact ⟨i + 1, ⟨rfl, hc⟩, ⟨back, hdrop.symm⟩, hrest⟩

theorem spans_row_singleton_iff {r : Regexp} : Spans text (row [r]) i k ↔ Spans text r i k := by
  have hrow : row [r] = .concat r .empty := rfl
  rw [hrow, spans_concat_iff]
  constructor
  · rintro ⟨_, h, hempty⟩
    obtain ⟨rfl, -⟩ := spans_empty_iff.1 hempty
    exact h
  · intro h
    exact ⟨k, h, spans_empty_iff.2 ⟨rfl, (spans_forward r).le_length h⟩⟩

/-- Rounds of a set span as many characters, and the set holds all of them. -/
theorem times_set_iff {s : CharSet} {n j : Nat} :
    Times text (Spans text (.set s)) n i j ↔
      j = i + n ∧ j ≤ text.length ∧
        ∀ m c, i ≤ m → m < j → text[m]? = some c → s.contains c = true := by
  induction n generalizing i with
  | zero =>
    constructor
    · rintro ⟨rfl, hi⟩
      exact ⟨rfl, hi, fun m c him hmi => absurd him (Nat.not_le_of_lt hmi)⟩
    · rintro ⟨rfl, hi, -⟩
      exact ⟨rfl, hi⟩
  | succ n ih =>
    simp only [times_succ, spans_set_iff, ih]
    constructor
    · rintro ⟨_, ⟨rfl, d, hd, hfirst⟩, rfl, hj, hall⟩
      refine ⟨by omega, hj, fun m c him hmj hc => ?_⟩
      obtain rfl | hlt := Nat.eq_or_lt_of_le him
      · rw [hd, Option.some_inj] at hc
        exact hc ▸ hfirst
      · exact hall m c hlt hmj hc
    · rintro ⟨rfl, hj, hall⟩
      have hlt : i < text.length := by omega
      have hi : text[i]? = some text[i] := List.getElem?_eq_getElem hlt
      refine ⟨i + 1, ⟨rfl, _, hi, hall i _ (Nat.le_refl i) (by omega) hi⟩, by omega, hj, ?_⟩
      exact fun m c him => hall m c (Nat.le_of_succ_le him)

/-- A repeated set spans the parts of the text, long enough, whose characters it holds. -/
theorem spans_repeated_set_iff_forall {s : CharSet} {lo j : Nat} :
    Spans text (.repeated (.set s) lo none) i j ↔
      i + lo ≤ j ∧ j ≤ text.length ∧
        ∀ m c, i ≤ m → m < j → text[m]? = some c → s.contains c = true := by
  rw [spans_repeated_iff]
  constructor
  · rintro ⟨n, hn, -, htimes⟩
    obtain ⟨rfl, hrest⟩ := times_set_iff.1 htimes
    exact ⟨Nat.add_le_add_left hn i, hrest⟩
  · rintro ⟨hij, hrest⟩
    refine ⟨j - i, by omega, fun hi h => (Option.some_ne_none hi h.symm).elim, ?_⟩
    exact times_set_iff.2 ⟨by omega, hrest⟩

/-- A repeated set that holds all characters of the text spans any part of it. -/
theorem spans_repeated_set_iff {s : CharSet} (hs : ∀ c ∈ text, s.contains c = true) {j : Nat} :
    Spans text (.repeated (.set s) 0 none) i j ↔ i ≤ j ∧ j ≤ text.length := by
  rw [spans_repeated_set_iff_forall, Nat.add_zero]
  exact and_congr_right fun _ => and_iff_left fun m c _ _ hc => hs c (List.mem_of_getElem? hc)

end Regexp

end DashQuery.Pattern

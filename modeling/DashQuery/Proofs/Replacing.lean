import DashQuery.Proofs.Rows
import DashQuery.Proofs.WholeNames

/-!
# Replacing operators in a text

A pattern without brackets, braces, backslashes and `?` can only name characters that are no
operators, or all characters with a dot.  So what it matches it still matches after operators in the
text are replaced by other characters: it cannot require an operator.

* `Regexp.Stable`: expressions that match the text with its characters replaced too.
* `readOutside?_level`: the tokens of such a pattern.
* `Regexp.parseDotted?_stable`: what is read from such a pattern is stable.
* `Regexp.spans_withLetter`: such a pattern matches with a letter in the place of an operator.
-/

namespace DashQuery.Pattern

variable {g : Char → Char} {text : List Char}

/-! ## Stable expressions -/

/-- What the expression spans, it still spans with the characters of the text replaced. -/
def Regexp.Stable (g : Char → Char) (r : Regexp) : Prop :=
  ∀ ⦃text : List Char⦄ ⦃i j : Nat⦄, Spans text r i j → Spans (text.map g) r i j

/-- Rounds are kept if each of them is. -/
theorem times_map {R S : Nat → Nat → Prop} (h : ∀ {i j}, R i j → S i j) {n i j : Nat}
    (ht : Times text R n i j) : Times (text.map g) S n i j := by
  induction n generalizing i with
  | zero => exact ⟨ht.1, by rw [List.length_map]; exact ht.2⟩
  | succ n ih =>
    obtain ⟨k, hk, ht⟩ := ht
    exact ⟨k, h hk, ih ht⟩

namespace Regexp

theorem hereditary_stable (g : Char → Char) : Hereditary (Stable g) where
  empty _ _ _ h := by
    obtain ⟨rfl, hi⟩ := spans_empty_iff.1 h
    exact .empty (by rwa [List.length_map])
  concat hp hq _ _ _ h := by
    obtain ⟨k, hk, h⟩ := spans_concat_iff.1 h
    exact .concat (hp hk) (hq h)
  alt hp hq _ _ _ h :=
    (spans_alt_iff.1 h).elim (fun h => .altLeft (hp h)) fun h => .altRight (hq h)
  group hp _ _ _ h := .group (hp (spans_group_iff.1 h))

theorem stable_repeated {p : Regexp} (hp : p.Stable g) (lo : Nat) (hi? : Option Nat) :
    (repeated p lo hi?).Stable g := by
  intro text i j h
  obtain ⟨n, hlo, hhi, ht⟩ := spans_repeated_iff.1 h
  exact spans_repeated_iff.2 ⟨n, hlo, hhi, times_map (fun h => hp h) ht⟩

theorem stable_set {s : CharSet} (hs : ∀ c, s.contains c = true → s.contains (g c) = true) :
    (set s).Stable g := by
  intro text i j h
  obtain ⟨rfl, c, hc, hcontains⟩ := spans_set_iff.1 h
  exact .set (by rw [List.getElem?_map, hc, Option.map_some]) (hs c hcontains)

/-- The ends of a text stay where they are. -/
theorem stable_look {a : Assertion} (ha : a = .textStart ∨ a = .textEnd) : (look a).Stable g := by
  intro text i j h
  obtain ⟨rfl, hi, hholds⟩ := spans_look_iff.1 h
  have hi' : i ≤ (text.map g).length := by rwa [List.length_map]
  refine .look hi' ?_
  obtain rfl | rfl := ha
  · exact (isNone_before_iff hi').2 ((isNone_before_iff hi).1 hholds)
  · refine (isNone_after_iff hi').2 ?_
    rw [List.length_map]
    exact (isNone_after_iff hi).1 hholds

end Regexp

/-! ## Patterns without brackets and flags -/

/-- A token that opens no brackets and leaves the flags as they are. -/
def Token.Level (f : Flags) : Token → Prop
  | .leaf _ | .repetition _ _ | .closeGroup | .bar => True
  | .openGroup flags _ _ => flags = f
  | _ => False

/-- No brackets are open, and the flags are the same in all groups. -/
structure State.Level (f : Flags) (s : State) : Prop where
  flags : s.group.flags = f
  outer : ∀ g ∈ s.outer, g.flags = f
  sets : s.sets = []

theorem State.Level.step? {f : Flags} {s s' : State} {t : Token} (ht : t.Level f) (hs : s.Level f)
    (h : s.step? t = some s') : s'.Level f := by
  cases t with
  | leaf r => cases h; exact ⟨hs.flags, hs.outer, hs.sets⟩
  | repetition lo hi? =>
    dsimp only [State.step?] at h
    split at h
    · cases h; exact ⟨hs.flags, hs.outer, hs.sets⟩
    · cases h
  | openGroup flags captures name? =>
    dsimp only [State.step?] at h
    split at h
    · cases h
    · cases h; exact ⟨ht, List.forall_mem_cons.2 ⟨hs.flags, hs.outer⟩, hs.sets⟩
  | closeGroup =>
    dsimp only [State.step?] at h
    split at h
    · cases h
    · next g outer houter =>
      cases h
      have := hs.outer
      rw [houter, List.forall_mem_cons] at this
      exact ⟨this.1, this.2, hs.sets⟩
  | bar => cases h; exact ⟨hs.flags, hs.outer, hs.sets⟩
  | _ => exact ht.elim

/-- Without a `?` a parenthesis is followed by neither a name nor flags. -/
theorem readGroup?_of_not_mem {dotAll : Bool} {cs : List Char} (hcs : '?' ∉ cs) :
    readGroup? (.dotted dotAll) cs = some (.openGroup (.dotted dotAll) true none, cs) := by
  have hskip : (Flags.dotted dotAll).skip cs = cs := rfl
  unfold readGroup?
  rw [hskip]
  split
  · exact absurd List.mem_cons_self hcs
  · exact absurd List.mem_cons_self hcs
  · exact absurd List.mem_cons_self hcs
  · rfl

/-- The characters that begin brackets, braces, an escape or a list of flags. -/
def shifters : List Char := ['[', '\x7b', '\\', '?']

/-- **The tokens of a pattern without brackets, braces, backslashes and `?`.** -/
theorem readOutside?_level {dotAll : Bool} (hfix : ∀ c, c ∉ operators → g c = c)
    (hline : ∀ c, g c = '\n' → c = '\n') {c : Char} {cs rest : List Char} {t : Token}
    (hc : c ∉ shifters) (hcs : '?' ∉ cs)
    (h : readOutside? (.dotted dotAll) c cs = some (t, rest)) :
    t.Level (.dotted dotAll) ∧ t.Keeps (Regexp.Stable g) := by
  have repetition (lo : Nat) : (Token.repetition lo none).Keeps (Regexp.Stable g) := fun p hp =>
    Regexp.stable_repeated hp lo none
  by_cases hop : c ∈ operators
  · simp only [operators, List.mem_cons, List.not_mem_nil, or_false] at hop
    rcases hop with rfl | rfl | rfl | rfl | rfl | rfl | rfl | rfl | rfl | rfl | rfl | rfl
    · have hgroup : readGroup? (.dotted dotAll) cs = some (t, rest) := h
      cases (readGroup?_of_not_mem hcs).symm.trans hgroup
      exact ⟨rfl, trivial⟩
    · cases h; exact ⟨trivial, trivial⟩
    · cases h; exact ⟨trivial, trivial⟩
    · exact absurd (by decide) hc
    · exact absurd (by decide) hc
    · cases h; exact ⟨trivial, repetition 0⟩
    · cases h; exact ⟨trivial, repetition 1⟩
    · exact absurd (by decide) hc
    · have hdot : some (Token.leaf (.set (dotSet dotAll)), cs) = some (t, rest) := by
        rw [← h, readOutside?, dot?_dotted, Option.map_some]
      cases hdot
      refine ⟨trivial, Regexp.stable_set fun d hd => ?_⟩
      rw [contains_dotSet_iff] at hd ⊢
      exact hd.imp_right fun hne heq => hne (hline d heq)
    · cases h; exact ⟨trivial, Regexp.stable_look (.inl rfl)⟩
    · cases h; exact ⟨trivial, Regexp.stable_look (.inr rfl)⟩
    · exact absurd (by decide) hc
  · rw [readOutside?_of_not_operator hop] at h
    cases h
    refine ⟨trivial, Regexp.stable_set fun d hd => ?_⟩
    have hliteral : (Flags.dotted dotAll).literal c = .single c := rfl
    rw [hliteral, CharSet.contains_single] at hd ⊢
    rw [hd, hfix c hop]

/-- **What is read from a pattern without brackets, braces, backslashes and `?`** still matches
after operators in the text are replaced. -/
theorem Regexp.parseDotted?_stable {dotAll : Bool} (hfix : ∀ c, c ∉ operators → g c = c)
    (hline : ∀ c, g c = '\n' → c = '\n') {pattern : List Char}
    (hpattern : ∀ c ∈ pattern, c ∉ shifters) {r : Regexp}
    (h : parseDotted? dotAll pattern = some r) : r.Stable g := by
  obtain ⟨s, hrun, hfinish⟩ := Option.bind_eq_some_iff.1 h
  let P (s : State) : Prop := s.Level (.dotted dotAll) ∧ s.Holds (Stable g)
  have hstart : P (.ofItems dotAll []) :=
    ⟨⟨rfl, List.forall_mem_nil _, rfl⟩, ⟨List.forall_mem_nil _, List.forall_mem_nil _⟩,
      List.forall_mem_nil _⟩
  have hs : P s := by
    refine run_preserves (fun {s s' c cs rest t} hs hsuffix hread hstep => ?_) hstart hrun
    obtain ⟨hlevel, hholds⟩ := hs
    have hchars : ∀ d ∈ c :: cs, d ∉ shifters := fun d hd => hpattern d (hsuffix.mem hd)
    rw [List.forall_mem_cons] at hchars
    have hquestion : '?' ∉ cs := fun hmem => hchars.2 _ hmem (by decide)
    have hposition : s.position = .outside := by rw [State.position, hlevel.sets]
    have hread' : readOutside? (.dotted dotAll) c cs = some (t, rest) := by
      rw [← hread, State.read?, hposition, hlevel.flags]
      rfl
    obtain ⟨ht, hkeeps⟩ := readOutside?_level hfix hline hchars.1 hquestion hread'
    exact ⟨hlevel.step? ht hstep, hholds.step? (hereditary_stable g) hkeeps hstep⟩
  exact hs.2.finish? (hereditary_stable g) hfinish

/-! ## A letter in the place of an operator -/

/-- The text with a letter in the place of a character. -/
def withLetter (c : Char) (text : List Char) : List Char :=
  text.map fun d => if d = c then 'x' else d

variable {c : Char}

theorem length_withLetter : (withLetter c text).length = text.length := List.length_map _

theorem not_mem_withLetter (hc : c ∈ operators) : c ∉ withLetter c text := by
  intro h
  obtain ⟨d, -, hd⟩ := List.mem_map.1 h
  by_cases hdc : d = c
  · rw [if_pos hdc] at hd
    subst hd
    exact absurd hc (by decide)
  · rw [if_neg hdc] at hd
    exact hdc hd

theorem newline_of_mem_withLetter (h : '\n' ∈ withLetter c text) : '\n' ∈ text := by
  obtain ⟨d, hd, heq⟩ := List.mem_map.1 h
  by_cases hdc : d = c
  · rw [if_pos hdc] at heq
    exact absurd heq (by decide)
  · rw [if_neg hdc] at heq
    exact heq ▸ hd

/-- **No operator is required** by a pattern without brackets, braces, backslashes and `?`: what
matches it whole does so with a letter in the place of the operator. -/
theorem Regexp.spans_withLetter {dotAll : Bool} (hc : c ∈ operators) {pattern : List Char}
    (hpattern : ∀ d ∈ pattern, d ∉ shifters) {r : Regexp}
    (hr : parseDotted? dotAll pattern = some r) (h : Spans text r 0 text.length) :
    Spans (withLetter c text) r 0 (withLetter c text).length := by
  have hfix : ∀ d, d ∉ operators → (if d = c then 'x' else d) = d := fun d hd =>
    if_neg (ne_of_mem_of_not_mem hc hd).symm
  have hline : ∀ d, (if d = c then 'x' else d) = '\n' → d = '\n' := by
    intro d hd
    split at hd
    · exact absurd hd (by decide)
    · exact hd
  rw [length_withLetter]
  exact parseDotted?_stable hfix hline hpattern hr h

end DashQuery.Pattern

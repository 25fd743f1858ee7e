import DashQuery.Proofs.Bounds
import DashQuery.Proofs.Scanning

/-!
# A pattern with an end sign behind it

A rule puts a `$` behind the text of its pattern before it is read.  These are the lemmas on what
the readers make of it.  In general a reader reads the same from the text alone and leaves the sign
over (`Unread`), or leaves nothing over since the text ends in a comment (`Trails`).  A reader may
take the sign itself in three places: behind a backslash, as a member of a set, and as the name of a
property, where it names none.  Only the backslash lets the pattern be read to its end.
-/

namespace DashQuery.Pattern

variable {α : Type} {f : Flags} {cs rest' : List Char}

/-- What is left of a text, and what is left of it with an end sign behind it: the sign is still
there, unless both are used up and it was hidden by a comment. -/
def Trails (rest rest' : List Char) : Prop := rest' = rest ++ ['$'] ∨ rest = [] ∧ rest' = []

/-- From the text alone the same is read, and the end sign is left over. -/
def Unread (out : Option (α × List Char)) (x : α) (rest' : List Char) : Prop :=
  ∃ rest, out = some (x, rest) ∧ rest' = rest ++ ['$']

/-- From the text alone the same is read, and the end sign is left over or hidden. -/
def UnreadOrHidden (out : Option (α × List Char)) (x : α) (rest' : List Char) : Prop :=
  ∃ rest, out = some (x, rest) ∧ Trails rest rest'

theorem Unread.orHidden {out : Option (α × List Char)} {x : α} (h : Unread out x rest') :
    UnreadOrHidden out x rest' := by
  obtain ⟨rest, hout, hrest⟩ := h
  exact ⟨rest, hout, .inl hrest⟩

/-- What is made of what is read does not matter to what is left. -/
theorem Unread.map {β : Type} {out out' : Option (α × List Char)} {y : β} (g : α → β)
    (hread : ∀ {x rest'}, out' = some (x, rest') → Unread out x rest')
    (h : out'.map (fun (x, rest) => (g x, rest)) = some (y, rest')) :
    Unread (out.map fun (x, rest) => (g x, rest)) y rest' := by
  obtain ⟨⟨x, r⟩, hr, hx⟩ := Option.map_eq_some_iff.1 h
  cases hx
  obtain ⟨rest, hrest, rfl⟩ := hread hr
  exact ⟨rest, by rw [hrest, Option.map_some], rfl⟩

/-- The sign comes first only if nothing else is left. -/
theorem Trails.cons_cases {c : Char} {rest cs' : List Char} (h : Trails rest (c :: cs')) :
    (rest = [] ∧ c = '$' ∧ cs' = []) ∨ ∃ cs, rest = c :: cs ∧ cs' = cs ++ ['$'] := by
  obtain h | ⟨-, h⟩ := h
  · cases rest with
    | nil => cases h; exact .inl ⟨rfl, rfl, rfl⟩
    | cons d ds => cases h; exact .inr ⟨ds, rfl, rfl⟩
  · cases h

/-- Another character than the sign comes first in both. -/
theorem Trails.cons_of_ne {c : Char} {rest cs' : List Char} (h : Trails rest (c :: cs'))
    (hc : c ≠ '$') : ∃ cs, rest = c :: cs ∧ cs' = cs ++ ['$'] :=
  h.cons_cases.resolve_left fun h => hc h.2.1

/-! ## Blanks, comments and braces -/

theorem skipComments_append (inComment : Bool) (cs : List Char) :
    Trails (skipComments inComment cs) (skipComments inComment (cs ++ ['$'])) := by
  induction cs generalizing inComment with
  | nil =>
    cases inComment
    · exact .inl (by decide)
    · exact .inr ⟨rfl, rfl⟩
  | cons c cs ih =>
    simp only [List.cons_append, skipComments]
    split
    · exact ih _
    · split
      · exact ih _
      · split
        · exact ih _
        · exact .inl rfl

theorem Flags.skip_append (f : Flags) (cs : List Char) :
    Trails (f.skip cs) (f.skip (cs ++ ['$'])) := by
  unfold Flags.skip
  split
  · exact skipComments_append _ _
  · exact .inl rfl

theorem Flags.skip_nil (f : Flags) : f.skip [] = [] := by
  unfold Flags.skip
  split <;> rfl

theorem Trails.skipLazy {rest : List Char} (h : Trails rest rest') :
    Trails (Pattern.skipLazy rest) (Pattern.skipLazy rest') := by
  obtain rfl | ⟨rfl, rfl⟩ := h
  · cases rest with
    | nil => exact .inl (by decide)
    | cons c rest =>
      by_cases hc : c = '?'
      · subst hc
        exact .inl rfl
      · refine .inl ?_
        simp [Pattern.skipLazy, hc]
  · exact .inr ⟨rfl, rfl⟩

theorem braced?_append {inComment : Bool} {text : List Char}
    (h : f.braced? inComment (cs ++ ['$']) = some (text, rest')) :
    Unread (f.braced? inComment cs) text rest' := by
  fun_induction f.braced? inComment cs generalizing text with
  | case1 inComment =>
    have hblank : Text.isBlank '$' = false := by decide
    simp [Flags.braced?, hblank] at h
  | case2 c cs ih =>
    rw [List.cons_append, Flags.braced?, if_pos rfl] at h
    exact ih h
  | case3 inComment c cs hc hb ih =>
    rw [List.cons_append, Flags.braced?, if_neg hc, if_pos hb] at h
    exact ih h
  | case4 inComment c cs hc hb hs ih =>
    rw [List.cons_append, Flags.braced?, if_neg hc, if_neg hb, if_pos hs] at h
    exact ih h
  | case5 inComment cs hc hb hs =>
    rw [List.cons_append, Flags.braced?, if_neg hc, if_neg hb, if_neg hs, if_pos rfl] at h
    cases h
    exact ⟨cs, rfl, rfl⟩
  | case6 inComment c cs hc hb hs hend ih =>
    rw [List.cons_append, Flags.braced?, if_neg hc, if_neg hb, if_neg hs, if_neg hend] at h
    obtain ⟨⟨text', r⟩, hr, hx⟩ := Option.map_eq_some_iff.1 h
    cases hx
    obtain ⟨rest, hrest, rfl⟩ := ih hr
    exact ⟨rest, by rw [hrest, Option.map_some], rfl⟩

theorem braced?_eq_none_of_skipComments {inComment : Bool} (hf : f.verbose = true)
    (h : skipComments inComment cs = []) : f.braced? inComment cs = none := by
  induction cs generalizing inComment with
  | nil => rfl
  | cons c cs ih =>
    rw [skipComments] at h
    rw [Flags.braced?, hf]
    grind

/-- A brace behind which nothing counts is not closed. -/
theorem braced?_eq_none_of_skip (h : f.skip cs = []) : f.braced? false cs = none := by
  unfold Flags.skip at h
  split at h
  · next hf => exact braced?_eq_none_of_skipComments hf h
  · rw [h]; rfl

/-! ## Escapes -/

theorem readHexDigits?_append {count : Nat} {digits : List Char}
    (h : readHexDigits? f count (cs ++ ['$']) = some (digits, rest')) :
    Unread (readHexDigits? f count cs) digits rest' := by
  induction count generalizing cs digits with
  | zero => cases h; exact ⟨cs, rfl, rfl⟩
  | succ count ih =>
    have hskip := f.skip_append cs
    rw [readHexDigits?] at h ⊢
    split at h
    · cases h
    · next c tail htail =>
      split at h
      · next hc =>
        rw [htail] at hskip
        obtain ⟨tail, hcs, rfl⟩ := hskip.cons_of_ne (by rintro rfl; revert hc; decide)
        obtain ⟨⟨digits', r⟩, hr, hx⟩ := Option.map_eq_some_iff.1 h
        cases hx
        obtain ⟨rest, hrest, rfl⟩ := ih hr
        exact ⟨rest, by simp only [hcs, hc, if_true, hrest, Option.map_some], rfl⟩
      · cases h

theorem readHex?_append {count : Nat} {c : Char}
    (h : readHex? f (count + 1) (cs ++ ['$']) = some (c, rest')) :
    Unread (readHex? f (count + 1) cs) c rest' := by
  have hskip := f.skip_append cs
  unfold readHex? at h
  split at h
  · next tail htail =>
    rw [htail] at hskip
    obtain ⟨tail, hcs, rfl⟩ := hskip.cons_of_ne (by decide)
    simp only [Option.bind_eq_bind, Option.bind_eq_some_iff] at h
    obtain ⟨⟨digits, r⟩, hr, d, hd, hx⟩ := h
    cases hx
    obtain ⟨rest, hrest, rfl⟩ := braced?_append hr
    exact ⟨rest, by simp [readHex?, hcs, hrest, hd], rfl⟩
  · next hbrace =>
    simp only [Option.bind_eq_bind, Option.bind_eq_some_iff] at h
    obtain ⟨⟨digits, r⟩, hr, d, hd, hx⟩ := h
    obtain hskip | ⟨-, hskip⟩ := hskip
    · rw [hskip] at hr hbrace
      obtain ⟨rest, hrest, rfl⟩ := readHexDigits?_append hr
      have hbrace' : ∀ tail, f.skip cs ≠ '\x7b' :: tail := fun tail h => hbrace _ (by rw [h]; rfl)
      dsimp only at hd hx
      split at hx
      · cases hx
      · next hascii =>
        cases hx
        refine ⟨rest, ?_, rfl⟩
        unfold readHex?
        split
        · next heq => exact absurd heq (hbrace' _)
        · simp only [Option.bind_eq_bind, hrest, hd, Option.bind_some, if_neg hascii]
    · rw [hskip, readHexDigits?, f.skip_nil] at hr
      cases hr

/-- The sign names no property. -/
theorem namedProperty?_sign : namedProperty? ['$'] = none := by decide +kernel

/-- The text that names a property ends in front of the sign, unless it is the sign. -/
theorem propertyText?_append {text : List Char}
    (h : propertyText? f (cs ++ ['$']) = some (text, rest')) :
    Unread (propertyText? f cs) text rest' ∨ text = ['$'] := by
  have hskip := f.skip_append cs
  unfold propertyText? at h ⊢
  split at h
  · cases h
  · next c tail hc =>
    rw [hc] at hskip
    obtain ⟨-, rfl, rfl⟩ | ⟨tail, hcs, rfl⟩ := hskip.cons_cases
    · cases h
      exact .inr rfl
    · left
      rw [hcs]
      dsimp only
      split at h
      · next hbrace =>
        rw [if_pos hbrace]
        exact braced?_append h
      · next hbrace =>
        rw [if_neg hbrace]
        split at h
        · cases h
        · next hback =>
          cases h
          exact ⟨tail, if_neg hback, rfl⟩

theorem readProperty?_append {negated : Bool} {set : CharSet}
    (h : readProperty? f negated (cs ++ ['$']) = some (set, rest')) :
    Unread (readProperty? f negated cs) set rest' := by
  unfold readProperty? at h ⊢
  split at h
  · cases h
  · next hascii =>
    rw [if_neg hascii]
    split at h
    · cases h
    · next text r htext =>
      obtain ⟨⟨unequal, named⟩, hnamed, hx⟩ := Option.map_eq_some_iff.1 h
      cases hx
      obtain ⟨rest, hrest, rfl⟩ | rfl := propertyText?_append htext
      · exact ⟨rest, by simp [hrest, hnamed], rfl⟩
      · rw [namedProperty?_sign] at hnamed
        cases hnamed

/-- A text of an open brace behind which nothing counts. -/
def IsOpenBrace (f : Flags) (cs : List Char) : Prop :=
  ∃ tail, cs = '\x7b' :: tail ∧ f.skip tail = []

/-- A word edge is read the same.  Behind an open brace the sign begins no name, so the brace is
left for a repetition count. -/
theorem readEdge?_append {edge : WordEdge}
    (h : readEdge? f (cs ++ ['$']) = some (edge, rest')) :
    Unread (readEdge? f cs) edge rest' ∨
      IsOpenBrace f cs ∧ rest' = cs ++ ['$'] ∧ edge = .boundary := by
  unfold readEdge? at h
  split at h
  · next tail' hcs =>
    cases cs with
    | nil => cases hcs
    | cons c tail =>
      simp only [List.cons_append, List.cons.injEq] at hcs
      obtain ⟨rfl, rfl⟩ := hcs
      have hskip := f.skip_append tail
      split at h
      · cases h
      · next d ds hd =>
        rw [hd] at hskip
        obtain ⟨htail, rfl, rfl⟩ | ⟨ds, htail, rfl⟩ := hskip.cons_cases
        · have hsign : isEdgeLetter '$' = false := by decide
          rw [if_neg (by simp [hsign])] at h
          cases h
          exact .inr ⟨⟨tail, rfl, htail⟩, rfl, rfl⟩
        · left
          simp only [readEdge?, htail]
          split at h
          · next hletter =>
            rw [if_pos hletter]
            split at h
            · cases h
            · next name r hname =>
              obtain ⟨rest, hrest, rfl⟩ := braced?_append hname
              obtain ⟨e, he, hx⟩ := Option.map_eq_some_iff.1 h
              cases hx
              exact ⟨rest, by simp only [hrest, he, Option.map_some], rfl⟩
          · next hletter =>
            rw [if_neg hletter]
            cases h
            exact ⟨_, rfl, rfl⟩
  · next hbrace =>
    cases h
    left
    unfold readEdge?
    split
    · next tail => exact absurd rfl (hbrace (tail ++ ['$']))
    · exact ⟨cs, rfl, rfl⟩

/-- An escape that is not the sign itself is read the same. -/
theorem readEscape?_append {e : Escape} (h : readEscape? f (cs ++ ['$']) = some (e, rest')) :
    Unread (readEscape? f cs) e rest' ∨ (cs = [] ∧ e = .char '$' ∧ rest' = []) ∨
      ∃ tail, cs = 'b' :: tail ∧ IsOpenBrace f tail ∧ rest' = tail ++ ['$'] ∧
        e = .assertion (.word .boundary f.ascii) := by
  cases cs with
  | nil =>
    cases h
    exact .inr (.inl ⟨rfl, rfl, rfl⟩)
  | cons c cs =>
    unfold readEscape? at h ⊢
    dsimp only [List.cons_append] at h ⊢
    split at h
    · exact .inl (Unread.map Escape.char readHex?_append h)
    · exact .inl (Unread.map Escape.char readHex?_append h)
    · exact .inl (Unread.map Escape.char readHex?_append h)
    · exact .inl (Unread.map Escape.set readProperty?_append h)
    · exact .inl (Unread.map Escape.set readProperty?_append h)
    all_goals try (cases h; exact .inl ⟨cs, rfl, rfl⟩)
    · obtain ⟨⟨edge, r⟩, hr, hx⟩ := Option.map_eq_some_iff.1 h
      cases hx
      obtain ⟨rest, hrest, rfl⟩ | ⟨hedge, rfl, hboundary⟩ := readEdge?_append hr
      · exact .inl ⟨rest, by simp only [hrest, Option.map_some], rfl⟩
      · exact .inr (.inr ⟨cs, rfl, hedge, rfl, by rw [hboundary]⟩)
    · -- no other letter has a reader of its own, so nothing behind it matters
      left
      split at h
      · obtain ⟨named, hnamed, hx⟩ := Option.map_eq_some_iff.1 h
        cases hx
        split <;> try contradiction
        exact ⟨cs, by rw [hnamed, Option.map_some], rfl⟩
      · split at h
        · cases h
          split <;> try contradiction
          exact ⟨cs, rfl, rfl⟩
        · cases h

/-! ## Tokens outside brackets -/

theorem readBraces?_append {t : Token} (h : readBraces? f (cs ++ ['$']) = some (t, rest')) :
    UnreadOrHidden (readBraces? f cs) t rest' := by
  unfold readBraces? at h ⊢
  split at h
  · cases h
  · next text r hr =>
    obtain ⟨rest, hrest, rfl⟩ := braced?_append hr
    obtain ⟨⟨lo, hi?⟩, hcounts, hx⟩ := Option.map_eq_some_iff.1 h
    cases hx
    exact ⟨_, by simp only [hrest, hcounts, Option.map_some], (f.skip_append rest).skipLazy⟩

theorem cut?_append {mark : Char} {first : List Char} (hmark : mark ≠ '$')
    (h : Text.cut? mark (cs ++ ['$']) = some (first, rest')) :
    Unread (Text.cut? mark cs) first rest' := by
  obtain ⟨hfirst, hcs⟩ := Text.cut?_eq_some_iff.1 h
  obtain ⟨back, rfl, hback⟩ | ⟨back, rfl, hback⟩ := List.append_eq_append_iff.1 hcs
  · have : mark ∈ ['$'] := hback ▸ List.mem_append_right _ List.mem_cons_self
    exact absurd (List.mem_singleton.1 this) hmark
  · cases back with
    | nil => exact absurd (List.cons.inj hback).1 hmark
    | cons d rest =>
      obtain ⟨rfl, rfl⟩ := List.cons.inj hback
      exact ⟨rest, Text.cut?_eq_some_iff.2 ⟨hfirst, rfl⟩, rfl⟩

theorem readGroupName?_append {t : Token} (h : readGroupName? f (cs ++ ['$']) = some (t, rest')) :
    Unread (readGroupName? f cs) t rest' := by
  simp only [readGroupName?, Option.bind_eq_bind, Option.bind_eq_some_iff] at h
  obtain ⟨⟨name, r⟩, hr, h⟩ := h
  obtain ⟨rest, hrest, rfl⟩ := cut?_append (by decide) hr
  split at h
  · next hname =>
    cases h
    exact ⟨rest, by simp only [readGroupName?, Option.bind_eq_bind, hrest, Option.bind_some,
      if_pos hname], rfl⟩
  · cases h

/-- The sign is no letter that ends a list of flags, so such a list ends in front of it. -/
theorem readFlags?_append {t : Token}
    (h : readFlags? f ((cs ++ ['$']).takeWhile isFlagChar) ((cs ++ ['$']).dropWhile isFlagChar) =
      some (t, rest')) :
    Unread (readFlags? f (cs.takeWhile isFlagChar) (cs.dropWhile isFlagChar)) t rest' := by
  cases hd : cs.dropWhile isFlagChar with
  | nil =>
    have hsign : ['$'].dropWhile isFlagChar = [] := by decide
    simp only [List.dropWhile_append, hd, hsign, readFlags?] at h
    split at h <;> cases h
  | cons c rest =>
    have htake : (cs ++ ['$']).takeWhile isFlagChar = cs.takeWhile isFlagChar := by
      rw [List.takeWhile_append, if_neg]
      intro hlength
      have := congrArg List.length (List.takeWhile_append_dropWhile (p := isFlagChar) (l := cs))
      rw [hd, List.length_append, hlength, List.length_cons] at this
      omega
    have hdrop : (cs ++ ['$']).dropWhile isFlagChar = c :: (rest ++ ['$']) := by
      rw [List.dropWhile_append, hd]
      rfl
    rw [htake, hdrop] at h
    unfold readFlags? at h ⊢
    split at h
    · next hwell =>
      rw [if_pos hwell]
      split at h
      · next heq => cases heq; cases h; exact ⟨rest, rfl, rfl⟩
      · next heq =>
        cases heq
        split at h
        · cases h
        · next hletters => cases h; exact ⟨rest, if_neg hletters, rfl⟩
      · cases h
    · cases h

/-- A word without the sign stands in front of it. -/
theorem eq_append_of_append_sign (word : List Char) (hword : '$' ∉ word)
    (h : cs ++ ['$'] = word ++ rest') : ∃ rest, cs = word ++ rest ∧ rest' = rest ++ ['$'] := by
  obtain ⟨back, rfl, hback⟩ | ⟨back, rfl, hback⟩ := List.append_eq_append_iff.1 h
  · cases back with
    | nil => exact ⟨[], by simp, hback.symm⟩
    | cons d back =>
      obtain ⟨rfl, -⟩ := List.cons.inj hback
      exact absurd (List.mem_append_right _ List.mem_cons_self) hword
  · exact ⟨back, rfl, hback⟩

theorem readGroup?_append {t : Token} (h : readGroup? f (cs ++ ['$']) = some (t, rest')) :
    UnreadOrHidden (readGroup? f cs) t rest' := by
  obtain hskip | ⟨hskip, hskip'⟩ := f.skip_append cs
  · unfold readGroup? at h ⊢
    rw [hskip] at h
    split
    · next rest hcs =>
      rw [hcs] at h
      exact (readGroupName?_append h).orHidden
    · next rest hcs =>
      rw [hcs] at h
      simp only [List.cons_append] at h
      split at h
      · cases h
      · cases h
      · next hequal hexclaim =>
        split
        · next tail => exact absurd rfl (hequal (tail ++ ['$']))
        · next tail => exact absurd rfl (hexclaim (tail ++ ['$']))
        · exact (readGroupName?_append h).orHidden
    · next rest hP hname hcs =>
      rw [hcs] at h
      split at h
      · next heq =>
        obtain ⟨r, hr, -⟩ := eq_append_of_append_sign ['?', 'P', '<'] (by decide) heq
        exact absurd (List.cons.inj hr).2 (hP r)
      · next heq =>
        obtain ⟨r, hr, -⟩ := eq_append_of_append_sign ['?', '<'] (by decide) heq
        exact absurd (List.cons.inj hr).2 (hname r)
      · next heq =>
        cases heq
        exact (readFlags?_append h).orHidden
      · next hquestion => exact absurd rfl (hquestion (rest ++ ['$']))
    · next hP hname hquestion =>
      split at h
      · next heq =>
        obtain ⟨r, hr, -⟩ := eq_append_of_append_sign ['?', 'P', '<'] (by decide) heq
        exact absurd hr (hP r)
      · next heq =>
        obtain ⟨r, hr, -⟩ := eq_append_of_append_sign ['?', '<'] (by decide) heq
        exact absurd hr (hname r)
      · next heq =>
        obtain ⟨r, hr, -⟩ := eq_append_of_append_sign ['?'] (by decide) heq
        exact absurd hr (hquestion r)
      · cases h
        exact ⟨_, rfl, .inl rfl⟩
  · unfold readGroup? at h
    rw [hskip'] at h
    cases h
    exact ⟨[], by simp only [readGroup?, hskip], .inr ⟨rfl, rfl⟩⟩

theorem readOpenSet_append (f : Flags) (cs : List Char) :
    (readOpenSet f (cs ++ ['$'])).1 = (readOpenSet f cs).1 ∧
      Trails (readOpenSet f cs).2 (readOpenSet f (cs ++ ['$'])).2 := by
  obtain hskip | ⟨hskip, hskip'⟩ := f.skip_append cs
  · unfold readOpenSet
    rw [hskip]
    cases f.skip cs with
    | nil => exact ⟨rfl, .inl rfl⟩
    | cons c tail =>
      by_cases hc : c = '^'
      · subst hc
        exact ⟨rfl, .inl rfl⟩
      · simp [hc, Trails]
  · unfold readOpenSet
    rw [hskip, hskip']
    exact ⟨rfl, .inr ⟨rfl, rfl⟩⟩

/-- A token outside brackets is read the same, unless a backslash takes the sign or an open brace
follows a word edge. -/
theorem readOutside?_append {c : Char} {t : Token}
    (h : readOutside? f c (cs ++ ['$']) = some (t, rest')) :
    UnreadOrHidden (readOutside? f c cs) t rest' ∨ (c = '\\' ∧ cs = [] ∧ rest' = []) ∨
      ∃ r tail, t = .leaf r ∧ IsOpenBrace f tail ∧ rest' = tail ++ ['$'] := by
  have plain {t' : Token} (h : some (t', cs ++ ['$']) = some (t, rest')) :
      UnreadOrHidden (some (t', cs)) t rest' := by
    cases h
    exact ⟨cs, rfl, .inl rfl⟩
  have lazy {t' : Token} (h : some (t', skipLazy (cs ++ ['$'])) = some (t, rest')) :
      UnreadOrHidden (some (t', skipLazy cs)) t rest' := by
    cases h
    exact ⟨_, rfl, Trails.skipLazy (.inl rfl)⟩
  unfold readOutside? at h ⊢
  split at h
  · exact .inl (readGroup?_append h)
  · exact .inl (plain h)
  · exact .inl (plain h)
  · obtain ⟨htoken, hrest⟩ := readOpenSet_append f cs
    rw [Option.some.inj h] at htoken hrest
    exact .inl ⟨(readOpenSet f cs).2, congrArg some (Prod.ext htoken.symm rfl), hrest⟩
  · exact .inl (lazy h)
  · exact .inl (lazy h)
  · exact .inl (lazy h)
  · exact .inl (readBraces?_append h)
  · obtain ⟨dot, hdot, hx⟩ := Option.map_eq_some_iff.1 h
    cases hx
    exact .inl ⟨cs, by rw [hdot, Option.map_some], .inl rfl⟩
  · exact .inl (plain h)
  · exact .inl (plain h)
  · split at h
    · next he =>
      cases h
      obtain ⟨rest, hout, rfl⟩ | ⟨hcs, -, hrest⟩ | ⟨tail, -, -, -, he⟩ := readEscape?_append he
      · exact .inl ⟨rest, by simp only [hout], .inl rfl⟩
      · exact .inr (.inl ⟨rfl, hcs, hrest⟩)
      · cases he
    · next he =>
      cases h
      obtain ⟨rest, hout, rfl⟩ | ⟨-, he, -⟩ | ⟨tail, -, -, -, he⟩ := readEscape?_append he
      · exact .inl ⟨rest, by simp only [hout], .inl rfl⟩
      · cases he
      · cases he
    · next he =>
      cases h
      obtain ⟨rest, hout, rfl⟩ | ⟨-, he, -⟩ | ⟨tail, -, hedge, hrest, -⟩ := readEscape?_append he
      · exact .inl ⟨rest, by simp only [hout], .inl rfl⟩
      · cases he
      · exact .inr (.inr ⟨_, tail, rfl, hedge, hrest⟩)
    · cases h
  · exact .inl (plain h)

/-! ## Tokens inside brackets -/

theorem readPosix?_append (cs : List Char) :
    readPosix? (cs ++ ['$']) = (readPosix? cs).map fun r => (r.1, r.2.1, r.2.2 ++ ['$']) := by
  -- the name of a class is closed by a bracket, so the sign completes none
  have hlast (name : String) (c : Char) (h : (name.toList ++ [':', ']']).getLast? = some c) :
      c ∉ ['$'] := by
    rw [List.getLast?_append] at h
    cases h
    decide
  have named (negated : Bool) (cs : List Char) (classes : List (String × CharSet)) :
      (classes.findSome? fun entry =>
        (Text.stripPrefix? (entry.1.toList ++ [':', ']']) (cs ++ ['$'])).map
          (negated, entry.2, ·)) =
      (classes.findSome? fun entry =>
        (Text.stripPrefix? (entry.1.toList ++ [':', ']']) cs).map (negated, entry.2, ·)).map
          fun r => (r.1, r.2.1, r.2.2 ++ ['$']) := by
    induction classes with
    | nil => rfl
    | cons entry classes ih =>
      simp only [List.findSome?_cons, Text.stripPrefix?_append (hlast entry.1), ih]
      cases Text.stripPrefix? (entry.1.toList ++ [':', ']']) cs <;> rfl
  cases cs with
  | nil => exact named false [] posixClasses
  | cons c cs =>
    by_cases hc : c = '^'
    · subst hc
      exact named true cs posixClasses
    · have hplain : ∀ tail, readPosix? (c :: tail) = posixClasses.findSome? fun entry =>
          (Text.stripPrefix? (entry.1.toList ++ [':', ']']) (c :: tail)).map
            (false, entry.2, ·) := by
        intro tail
        unfold readPosix?
        split
        · next heq =>
          split at heq
          · next hcaret => exact absurd (List.cons.inj hcaret).1 hc
          · cases heq; rfl
      rw [List.cons_append, hplain, hplain]
      exact named false (c :: cs) posixClasses

/-- A member that is read the same leaves the sign, unless a backslash takes it. -/
theorem readAtom?_append {c : Char} {e : Escape}
    (h : readAtom? f c (cs ++ ['$']) = some (e, rest')) :
    Unread (readAtom? f c cs) e rest' ∨ rest' = [] ∨ ∃ a, e = .assertion a := by
  unfold readAtom? at h ⊢
  split at h
  · next hc =>
    rw [if_pos hc]
    obtain hread | ⟨-, -, hrest⟩ | ⟨tail, -, -, -, he⟩ := readEscape?_append h
    · exact .inl hread
    · exact .inr (.inl hrest)
    · exact .inr (.inr ⟨_, he⟩)
  · next hc =>
    cases h
    exact .inl ⟨cs, if_neg hc, rfl⟩

/-- The sign ends no range, and neither does the end of the text. -/
theorem endsRange_ahead_append (f : Flags) (cs : List Char) :
    endsRange (f.ahead (cs ++ ['$'])) = endsRange (f.ahead cs) := by
  have front (cs : List Char) : endsRange (cs ++ ['$']).head? = endsRange cs.head? := by
    cases cs <;> rfl
  have blank (cs : List Char) :
      (cs ++ ['$']).dropWhile Text.isBlank = cs.dropWhile Text.isBlank ++ ['$'] := by
    have hsign : ['$'].dropWhile Text.isBlank = ['$'] := by decide
    rw [List.dropWhile_append, hsign]
    split
    · next h => rw [List.isEmpty_iff.1 h]; rfl
    · rfl
  unfold Flags.ahead
  split
  · rw [blank]
    cases cs.dropWhile Text.isBlank with
    | nil => rfl
    | cons c rest =>
      by_cases hc : c = '#'
      · subst hc
        exact (congrArg (fun cs => endsRange cs.head?) (blank rest)).trans (front _)
      · simp [hc]
  · exact front cs

theorem readMember?_append {c : Char} {t : Token}
    (h : readMember? f c (cs ++ ['$']) = some (t, rest')) :
    UnreadOrHidden (readMember? f c cs) t rest' ∨ rest' = [] := by
  simp only [readMember?, Option.bind_eq_bind, Option.bind_eq_some_iff] at h
  obtain ⟨⟨low, r⟩, hlow, h⟩ := h
  dsimp only at h
  have single {low : Escape} {r r' : List Char} (hr : Trails r r')
      (h : (low.member? f).map (fun s => (Token.member s, r')) = some (t, rest')) :
      UnreadOrHidden ((low.member? f).map fun s => (Token.member s, r)) t rest' := by
    obtain ⟨s, hs, hx⟩ := Option.map_eq_some_iff.1 h
    cases hx
    exact ⟨r, by rw [hs, Option.map_some], hr⟩
  obtain ⟨rest, hout, rfl⟩ | rfl | ⟨a, rfl⟩ := readAtom?_append hlow
  · have hskip := f.skip_append rest
    simp only [readMember?, Option.bind_eq_bind, hout, Option.bind_some]
    split
    · next afterDash hdash =>
      have hdash' : f.skip (rest ++ ['$']) = '-' :: (afterDash ++ ['$']) := by
        obtain hskip | ⟨hskip, -⟩ := hskip
        · rw [hskip, hdash]; rfl
        · rw [hdash] at hskip; cases hskip
      rw [hdash'] at h
      simp only [endsRange_ahead_append] at h
      split
      · next hends =>
        rw [if_pos hends] at h
        exact .inl (single (.inl (by rw [hdash]; rfl)) h)
      · next hends =>
        rw [if_neg hends] at h
        have hskip := f.skip_append afterDash
        split at h
        · cases h
        · next d ds hd =>
          rw [hd] at hskip
          obtain ⟨⟨high, r'⟩, hhigh, h⟩ := Option.bind_eq_some_iff.1 h
          obtain ⟨s, hs, hx⟩ := Option.map_eq_some_iff.1 h
          cases hx
          obtain ⟨-, -, rfl⟩ | ⟨ds, hds, rfl⟩ := hskip.cons_cases
          · exact .inr (List.suffix_nil.1 (readAtom?_suffix hhigh))
          · rw [hds]
            obtain ⟨last, hout, rfl⟩ | hrest | ⟨a, rfl⟩ := readAtom?_append hhigh
            · refine .inl ⟨last, ?_, .inl rfl⟩
              simp only [hout, Option.bind_some, hs, Option.map_some]
            · exact .inr hrest
            · cases low <;> cases hs
    · next hdash =>
      split at h
      · next afterDash hdash' =>
        rw [hdash'] at hskip
        obtain ⟨tail, htail, -⟩ := hskip.cons_of_ne (by decide)
        exact absurd htail (hdash tail)
      · exact .inl (single hskip h)
  · -- the sign was the last member
    rw [f.skip_nil] at h
    dsimp only at h
    obtain ⟨s, -, hx⟩ := Option.map_eq_some_iff.1 h
    cases hx
    exact .inr rfl
  · -- an assertion is no member
    have hmember : (Escape.assertion a).member? f = none := rfl
    have hrange : ∀ high, rangeMember? f (.assertion a) high = none := fun _ => rfl
    simp only [hmember, hrange, Option.map_none] at h
    split at h
    · split at h
      · cases h
      · split at h
        · cases h
        · obtain ⟨_, -, h⟩ := Option.bind_eq_some_iff.1 h
          cases h
    · cases h

theorem readInside?_bracket (h : ∀ rest, cs ≠ ':' :: rest) :
    readInside? f '[' cs = some (readOpenSet f cs) := by
  unfold readInside?
  split <;> first | rfl | simp_all

/-- A token inside brackets is read the same, unless it takes the sign, which closes no set. -/
theorem readInside?_append {c : Char} {t : Token}
    (h : readInside? f c (cs ++ ['$']) = some (t, rest')) :
    UnreadOrHidden (readInside? f c cs) t rest' ∨ rest' = [] ∧ t ≠ .closeSet := by
  have openSet (cs : List Char) (h : readOpenSet f (cs ++ ['$']) = (t, rest')) :
      UnreadOrHidden (some (readOpenSet f cs)) t rest' := by
    obtain ⟨htoken, hrest⟩ := readOpenSet_append f cs
    rw [h] at htoken hrest
    exact ⟨(readOpenSet f cs).2, congrArg some (Prod.ext htoken.symm rfl), hrest⟩
  have behind {d : Char} (hd : d ≠ '$') {tail : List Char} (h : cs ++ ['$'] = d :: tail) :
      ∃ rest, cs = d :: rest := by
    obtain ⟨rest, hcs, -⟩ := eq_append_of_append_sign [d] (by simpa using Ne.symm hd) h
    exact ⟨rest, hcs⟩
  unfold readInside?
  split
  · next rest =>
    left
    simp only [readInside?, List.cons_append, readPosix?_append] at h
    cases hposix : readPosix? rest with
    | none =>
      rw [hposix] at h
      exact openSet (':' :: rest) (Option.some.inj h)
    | some named =>
      obtain ⟨negated, s, r⟩ := named
      rw [hposix] at h
      obtain ⟨m, hm, hx⟩ := Option.map_eq_some_iff.1 h
      cases hx
      exact ⟨r, by simp only [hm, Option.map_some], .inl rfl⟩
  · next hcolon =>
    have hcolon' : ∀ tail, cs ++ ['$'] ≠ ':' :: tail := fun tail heq =>
      (behind (by decide) heq).elim hcolon
    rw [readInside?_bracket hcolon'] at h
    exact .inl (openSet cs (Option.some.inj h))
  · cases h; exact .inl ⟨cs, rfl, .inl rfl⟩
  · next rest => cases h; exact .inl ⟨rest, rfl, .inl rfl⟩
  · next rest => cases h; exact .inl ⟨rest, rfl, .inl rfl⟩
  · next rest => cases h; exact .inl ⟨rest, rfl, .inl rfl⟩
  · next hand hminus htilde =>
    unfold readInside? at h
    split at h <;> try contradiction
    · obtain ⟨rest, hcs⟩ := behind (by decide) ‹cs ++ ['$'] = '&' :: _›
      exact (hand rest rfl hcs).elim
    · obtain ⟨rest, hcs⟩ := behind (by decide) ‹cs ++ ['$'] = '-' :: _›
      exact (hminus rest rfl hcs).elim
    · obtain ⟨rest, hcs⟩ := behind (by decide) ‹cs ++ ['$'] = '~' :: _›
      exact (htilde rest rfl hcs).elim
    · obtain hread | hrest := readMember?_append h
      · exact .inl hread
      · obtain ⟨s, rfl⟩ := readMember?_eq_member h
        exact .inr ⟨hrest, Token.noConfusion⟩

/-- **Reading in front of the end sign.**  A token is read the same from a text with an end sign
behind it, and the sign is left over or hidden.  The exceptions are a token of a set that takes the
sign, a backslash that takes it, and a word edge in front of an open brace. -/
theorem readToken?_append {position : Position} {c : Char} {t : Token}
    (h : readToken? position f c (cs ++ ['$']) = some (t, rest')) :
    UnreadOrHidden (readToken? position f c cs) t rest' ∨
      (position ≠ .outside ∧ rest' = [] ∧ t ≠ .closeSet) ∨
      (position = .outside ∧ c = '\\' ∧ cs = [] ∧ rest' = []) ∨
      position = .outside ∧ ∃ r tail, t = .leaf r ∧ IsOpenBrace f tail ∧ rest' = tail ++ ['$'] := by
  have inside {c : Char} (hposition : position ≠ .outside)
      (h : readInside? f c (cs ++ ['$']) = some (t, rest')) :
      UnreadOrHidden (readInside? f c cs) t rest' ∨
        position ≠ .outside ∧ rest' = [] ∧ t ≠ .closeSet :=
    (readInside?_append h).imp_right fun hrest => ⟨hposition, hrest⟩
  unfold readToken? at h ⊢
  cases position with
  | outside =>
    obtain hread | ⟨hc, hcs, hrest⟩ | hedge := readOutside?_append h
    · exact .inl hread
    · exact .inr (.inr (.inl ⟨rfl, hc, hcs, hrest⟩))
    · exact .inr (.inr (.inr ⟨rfl, hedge⟩))
  | setFront =>
    dsimp only at h ⊢
    split at h
    · next hc => cases h; exact .inl ⟨cs, if_pos hc, .inl rfl⟩
    · next hc =>
      rw [if_neg hc]
      split at h
      · next hc => cases h; exact .inl ⟨cs, if_pos hc, .inl rfl⟩
      · next hc =>
        rw [if_neg hc]
        exact (inside (by decide) h).imp_right .inl
  | behindDashes =>
    dsimp only at h ⊢
    split at h
    · next hc => cases h; exact .inl ⟨cs, if_pos hc, .inl rfl⟩
    · next hc =>
      rw [if_neg hc]
      exact (inside (by decide) h).imp_right .inl
  | insideSet => exact (inside (by decide) h).imp_right .inl

end DashQuery.Pattern

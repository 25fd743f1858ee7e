import DashQuery.Proofs.Lexing

/-!
# Which block is read for what

The selector and the by clause are found by two scans of the whole text.  The scan for the by
clause asks for `by ` in front of a brace but not for a word of its own, and it does not ask where
the selector stands.  So there is exactly one way for one block to be read for both: the text in
front of the first brace ends in `by `, as it does for the metric `standby` with a blank behind it.

* `isSelectorBlock_isFirstByBlock_iff`: the condition on the text in front of the first brace.
* `byWord_suffix_iff`: the condition on a metric that is one word.
* `block_read_twice_iff`: both, for the queries that are read.
-/

namespace DashQuery.Query

variable {cs front contents : List Char}

theorem IsSelectorBlock.before_eq (h : IsSelectorBlock cs front contents) :
    Text.before '{' cs = front := by
  obtain ⟨⟨-, back, rfl⟩, hfront⟩ := h
  exact Text.before_append_cons hfront

/-- **One block is read as selector and as by clause exactly if the text in front of the first brace
ends in `by ` and the block is not empty.** -/
theorem isSelectorBlock_isFirstByBlock_iff :
    (∃ front contents, IsSelectorBlock cs (front ++ byWord) contents ∧
        IsFirstByBlock cs front contents) ↔
      byWord <:+ Text.before '{' cs ∧ ∃ contents, contents ≠ [] ∧ selector? cs = some contents := by
  constructor
  · rintro ⟨front, contents, hsel, ⟨-, hne⟩, -⟩
    rw [hsel.before_eq]
    exact ⟨List.suffix_append _ _, contents, hne, selector?_eq_some_iff.2 ⟨_, hsel⟩⟩
  · rintro ⟨⟨front, hby⟩, contents, hne, hsel⟩
    obtain ⟨front', hblock⟩ := selector?_eq_some_iff.1 hsel
    rw [hblock.before_eq] at hby
    subst hby
    have hfront : '{' ∉ front := fun h => hblock.2 (List.mem_append_left _ h)
    exact ⟨front, contents, hblock, isFirstByBlock_of_not_mem ⟨hblock.1, hne⟩ hfront⟩

/-- The text of a query on a metric that is one word, with blanks between the metric and the only
block of the text. -/
structure HasSingleBlock (cs token name gap contents back : List Char) : Prop where
  text : cs = token ++ ':' :: (name ++ gap) ++ '{' :: (contents ++ '}' :: back)
  name_ne : name ≠ []
  name_word : name.any Text.isBlank = false
  gap_blank : gap.all Text.isBlank = true
  closed : '}' ∉ contents
  single : '{' ∉ token ++ ':' :: (name ++ gap) ∧ '{' ∉ contents ++ '}' :: back

theorem suffix_append_singleton_iff {t l : List Char} {c d : Char} :
    t ++ [c] <:+ l ++ [d] ↔ c = d ∧ t <:+ l := by
  rw [List.suffix_concat_iff]
  constructor
  · rintro (h | ⟨t', heq, hsuffix⟩)
    · simp at h
    · obtain ⟨rfl, hcd⟩ := List.append_inj' heq rfl
      exact ⟨by simpa using hcd, hsuffix⟩
  · rintro ⟨rfl, hsuffix⟩
    exact Or.inr ⟨t, rfl, hsuffix⟩

theorem suffix_append_cons_append_singleton_iff {t l : List Char} {c d mark : Char} :
    t ++ [c] <:+ front ++ mark :: (l ++ [d]) ↔ c = d ∧ t <:+ front ++ mark :: l := by
  rw [← List.cons_append, ← List.append_assoc, suffix_append_singleton_iff]

/-- A name behind a colon ends in `by`, whatever stands in front of the colon. -/
theorem by_suffix_append_colon_iff {token name : List Char} (hne : name ≠ []) :
    ['b', 'y'] <:+ token ++ ':' :: name ↔ ['b', 'y'] <:+ name := by
  constructor
  · intro h
    obtain ⟨init, last, rfl⟩ := (List.eq_nil_or_concat name).resolve_left hne
    rw [List.concat_eq_append, show ['b', 'y'] = ['b'] ++ ['y'] from rfl,
      suffix_append_cons_append_singleton_iff] at h
    obtain ⟨rfl, h⟩ := h
    rw [show ['b'] = [] ++ ['b'] from rfl] at h
    rcases List.eq_nil_or_concat init with rfl | ⟨init, c, rfl⟩
    · rw [suffix_append_singleton_iff] at h
      exact absurd h.1 (by decide)
    · rw [List.concat_eq_append, suffix_append_cons_append_singleton_iff] at h
      obtain ⟨rfl, -⟩ := h
      exact ⟨init, by simp⟩
  · intro h
    exact h.trans ((List.suffix_cons _ _).trans (List.suffix_append _ _))

/-- The text in front of a brace ends in `by ` only if the single blank of `by ` is all that stands
between the name and the brace, and the name ends in `by` itself. -/
theorem byWord_suffix_iff {token name gap : List Char} (hne : name ≠ [])
    (hname : name.any Text.isBlank = false) (hgap : gap.all Text.isBlank = true) :
    byWord <:+ token ++ ':' :: (name ++ gap) ↔ gap = [' '] ∧ ['b', 'y'] <:+ name := by
  rw [List.any_eq_false] at hname
  rw [List.all_eq_true] at hgap
  rw [show byWord = ['b', 'y'] ++ [' '] from rfl]
  constructor
  · intro h
    -- the last character in front of the brace is a blank, so it is one of the gap
    rcases List.eq_nil_or_concat gap with rfl | ⟨gap, c, rfl⟩
    · obtain ⟨init, last, rfl⟩ := (List.eq_nil_or_concat name).resolve_left hne
      rw [List.concat_eq_append] at h hname
      rw [List.append_nil, suffix_append_cons_append_singleton_iff] at h
      have hlast := hname last (by simp)
      rw [← h.1] at hlast
      exact absurd hlast (by decide)
    rw [List.concat_eq_append, ← List.append_assoc, suffix_append_cons_append_singleton_iff] at h
    obtain ⟨rfl, h⟩ := h
    -- the character in front of it is `y`, so the gap ends there
    rcases List.eq_nil_or_concat gap with rfl | ⟨gap, c, rfl⟩
    · rw [List.append_nil, by_suffix_append_colon_iff hne] at h
      exact ⟨rfl, h⟩
    · rw [List.concat_eq_append, ← List.append_assoc, show ['b', 'y'] = ['b'] ++ ['y'] from rfl,
        suffix_append_cons_append_singleton_iff] at h
      have hblank := hgap c (by simp)
      rw [← h.1] at hblank
      exact absurd hblank (by decide)
  · rintro ⟨rfl, hby⟩
    rw [suffix_append_cons_append_singleton_iff, by_suffix_append_colon_iff hne]
    exact ⟨rfl, hby⟩

namespace HasSingleBlock

variable {token name gap back : List Char} {text : String}

/-- The only block is no by clause unless `by ` stands in front of it. -/
theorem byClause?_eq_none_iff
    (h : HasSingleBlock text.toList token name gap contents back) :
    byClause? text.toList = none ↔ ¬ (gap = [' '] ∧ ['b', 'y'] <:+ name ∧ contents ≠ []) := by
  have hiff : byWord <:+ token ++ ':' :: (name ++ gap) ↔ gap = [' '] ∧ ['b', 'y'] <:+ name :=
    byWord_suffix_iff h.name_ne h.name_word h.gap_blank
  rw [Query.byClause?_eq_none_iff, h.text]
  constructor
  · rintro hnone ⟨hgap, hname, hne⟩
    obtain ⟨front, hfront⟩ := hiff.2 ⟨hgap, hname⟩
    exact hnone front contents ⟨⟨h.closed, back, by rw [hfront]⟩, hne⟩
  · rintro hnot front found ⟨⟨hclosed, rest, heq⟩, hne⟩
    obtain ⟨hfront, hrest⟩ := Text.append_cons_inj_of_single h.single.1 h.single.2 heq
    obtain ⟨hgap, hname⟩ := hiff.1 ⟨front, hfront.symm⟩
    obtain ⟨rfl, -⟩ := Text.append_cons_inj h.closed hclosed hrest
    exact hnot ⟨hgap, hname, hne⟩

theorem selector?_eq (h : HasSingleBlock text.toList token name gap contents back) :
    selector? text.toList = some contents := by
  rw [h.text]
  exact selector?_append_block h.single.1 h.closed

end HasSingleBlock

/-- **Exactly when a block is read twice.**  For every query that is read: one block is both its
selector and its by clause if and only if the text in front of the first brace ends in `by ` and
the block is not empty.  For a metric of one word and a single block that happens if and only if
one plain blank stands in front of the block and the metric ends in `by`; in all other cases there
is no by clause, and the grouping is that of the wildcards in the selector. -/
theorem block_read_twice_iff {text : String} {labels : Label.Table} {q : Query}
    (h : parse text labels = .ok q) :
    ((∃ front contents, IsSelectorBlock text.toList (front ++ byWord) contents ∧
        IsFirstByBlock text.toList front contents) ↔
      byWord <:+ Text.before '{' text.toList ∧
        ∃ contents, contents ≠ [] ∧ selector? text.toList = some contents) ∧
    ∀ token name gap contents back, HasSingleBlock text.toList token name gap contents back →
      ((q.byClause = [] ∧
          q.groupBy = (wildcardLabels contents).map fun l => labels.labelOf (String.ofList l)) ↔
        ¬ (gap = [' '] ∧ ['b', 'y'] <:+ name ∧ contents ≠ [])) := by
  refine ⟨isSelectorBlock_isFirstByBlock_iff, fun token name gap contents back hsingle => ?_⟩
  obtain ⟨-, hgroup, hclause, -⟩ := scans_of_parse h
  rw [← hsingle.byClause?_eq_none_iff, hgroup, hclause]
  constructor
  · rintro ⟨hby, -⟩
    exact byAttributes_eq_nil_iff.1 hby
  · intro hnone
    exact ⟨byAttributes_eq_nil_iff.2 hnone,
      groupLabels_eq_of_byClause?_eq_none labels hnone hsingle.selector?_eq⟩

/-- With two blanks in front of its block a metric keeps the grouping of its wildcards. -/
theorem two_blanks_block_read_once :
    ∃ q, parse "count:standby  \x7bservice:*\x7d" .empty = .ok q ∧
      q.byClause = [] ∧ q.groupBy = ["service"] := by
  refine ⟨_, rfl, ?_⟩
  have hsingle : HasSingleBlock "count:standby  \x7bservice:*\x7d".toList "count".toList
      "standby".toList "  ".toList "service:*".toList [] :=
    ⟨by decide, by decide, by decide, by decide, by decide, by decide⟩
  exact ((block_read_twice_iff rfl).2 _ _ _ _ _ hsingle).2 (by decide)

/-- With one blank the block of the metric `standby` is selector and by clause at once. -/
theorem standby_block_read_twice :
    ∃ q, parse "count:standby \x7bservice:*\x7d" .empty = .ok q ∧
      IsSelectorBlock "count:standby \x7bservice:*\x7d".toList ("count:stand".toList ++ byWord)
        "service:*".toList ∧
      IsFirstByBlock "count:standby \x7bservice:*\x7d".toList "count:stand".toList
        "service:*".toList ∧
      q.byClause = ["service:*"] ∧ q.groupBy = ["service:*"] := by
  have hblock : IsBlock "count:standby \x7bservice:*\x7d".toList ("count:stand".toList ++ byWord)
      "service:*".toList := ⟨by decide, [], by decide⟩
  exact ⟨_, rfl, ⟨hblock, by decide⟩, isFirstByBlock_of_not_mem ⟨hblock, by decide⟩ (by decide),
    rfl, rfl⟩

end DashQuery.Query

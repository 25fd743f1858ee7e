import DashQuery.Proofs.Lexing

/-!
# Where the parts of a query stand

A query is laid out as

```
AGGREGATION:metric{token,token} by {name,name}tail
```

with any text for the tokens and the names, blanks around them included, and any text behind the
blocks.  Every part is found by a scan of the whole text, so each scan has to find its mark where it
stands and not inside another part.  What keeps the parts apart is that the marks of the grammar do
not occur in them.

* `Layout.selector?_written`, `Layout.byClause?_written`: the first block is the selector, and only
  the block behind ` by ` is a by clause.
* `Layout.hasInfix_written`: a modifier occurs in the text exactly if it occurs in one of its parts.
* `Layout.parse_eq`: what is read from a laid-out query.
-/

namespace DashQuery.Query

/-! ## Modifiers -/

/-- What may stand behind a query. -/
inductive Modifier where
  | count
  | rate
  deriving DecidableEq, Repr

/-- The text of a modifier. -/
def Modifier.written : Modifier → List Char
  | count => asCountText.toList
  | rate => asRateText.toList

namespace Modifier

/-- The same as a text. -/
def text (m : Modifier) : String := String.ofList m.written

@[simp] theorem toList_text (m : Modifier) : m.text.toList = m.written := String.toList_ofList

theorem written_ne_nil (m : Modifier) : m.written ≠ [] := by
  cases m <;> decide

theorem dot_mem_written (m : Modifier) : '.' ∈ m.written := by
  cases m <;> decide

theorem isBlank_of_mem_written (m : Modifier) : ∀ c ∈ m.written, Text.isBlank c = false := by
  have hall : m.written.all (fun c => !Text.isBlank c) = true := by cases m <;> decide
  intro c hc
  simpa using List.all_eq_true.1 hall c hc

theorem trimmed_written (m : Modifier) : Text.Trimmed m.written := by
  cases m <;> decide

/-- The marks of the grammar do not occur in a modifier. -/
theorem mark_not_mem_written (m : Modifier) {mark : Char} (h : mark ∈ [':', ',', '!', '{', '}']) :
    mark ∉ m.written := by
  simp only [List.mem_cons, List.not_mem_nil, or_false] at h
  rcases h with rfl | rfl | rfl | rfl | rfl <;> cases m <;> decide

/-- A modifier does not reach over a mark. -/
theorem hasInfix_append_mark (m : Modifier) {mark : Char} {front rest : List Char}
    (h : mark ∈ [':', ',', '!', '{', '}']) :
    Text.hasInfix m.written (front ++ mark :: rest) =
      (Text.hasInfix m.written front || Text.hasInfix m.written rest) :=
  Text.hasInfix_append_cons (m.mark_not_mem_written h)

end Modifier

/-! ## Laying out -/

/-- A query as it is laid out. -/
structure Layout where
  aggregation : Aggregation
  metric : String
  /-- The texts between the commas of the selector. -/
  tokens : List (List Char)
  /-- The texts between the commas of the by clause; there is no clause without any. -/
  groups : List (List Char)
  /-- The text behind the blocks, such as modifiers. -/
  tail : List Char
  deriving DecidableEq, Repr

namespace Layout

/-- The text in front of the selector. -/
def front (s : Layout) : List Char := s.aggregation.text.toList ++ ':' :: s.metric.toList

/-- The text between the braces of the selector. -/
def selector (s : Layout) : List Char := [','].intercalate s.tokens

/-- The text between the braces of the by clause. -/
def clause (s : Layout) : List Char := [','].intercalate s.groups

/-- The text behind the selector. -/
def ending (s : Layout) : List Char :=
  if s.groups = [] then s.tail else ' ' :: byWord ++ '{' :: (s.clause ++ '}' :: s.tail)

/-- The characters of a query. -/
def written (s : Layout) : List Char := s.front ++ '{' :: (s.selector ++ '}' :: s.ending)

/-- The text of a query. -/
def text (s : Layout) : String := String.ofList s.written

/-- The attributes of the by clause. -/
def names (s : Layout) : List String := s.groups.map fun g => String.ofList (Text.trim g)

/-- A text that can stand between commas: it has none of the marks around it. -/
def IsPiece (cs : List Char) : Prop := ',' ∉ cs ∧ '{' ∉ cs ∧ '}' ∉ cs

instance (cs : List Char) : Decidable (IsPiece cs) :=
  inferInstanceAs (Decidable (',' ∉ cs ∧ '{' ∉ cs ∧ '}' ∉ cs))

/-- A query whose parts are found where they stand.  A by clause with a single empty name would have
an empty block, which is no by clause. -/
structure Readable (s : Layout) : Prop where
  rank : ∀ rank, s.aggregation = .percentile rank → Aggregation.isRank rank.toList = true
  metric_ne : s.metric ≠ ""
  metric_marks : '{' ∉ s.metric.toList
  metric_trimmed : Text.Trimmed s.metric.toList
  tokens : ∀ t ∈ s.tokens, IsPiece t
  groups : ∀ g ∈ s.groups, IsPiece g
  groups_ne : s.groups ≠ [[]]
  tail_marks : '{' ∉ s.tail

variable {s : Layout}

/-! ## The front -/

theorem toList_text (s : Layout) : s.text.toList = s.written := String.toList_ofList

theorem aggregation_ofToken? (h : s.Readable) :
    Aggregation.ofToken? s.aggregation.text.toList = some s.aggregation :=
  Aggregation.ofToken?_text h.rank

theorem opening_not_mem_front (h : s.Readable) : '{' ∉ s.front := by
  intro hmem
  rcases List.mem_append.1 hmem with hmem | hmem
  · exact not_mem_of_ofToken? (aggregation_ofToken? h) (by decide) hmem
  · rcases List.mem_cons.1 hmem with hcolon | hmem
    · exact absurd hcolon (by decide)
    · exact h.metric_marks hmem

/-- The text in front of the selector ends with the metric, so it does not end with a blank. -/
theorem not_byWord_suffix_front (h : s.Readable) : ¬ byWord <:+ s.front := by
  rintro ⟨init, hinit⟩
  have hne : s.metric.toList ≠ [] := by simpa using h.metric_ne
  -- `by ` ends with a blank, the metric does not
  have hlast : s.front.getLast? = s.metric.toList.getLast? := by
    unfold front
    rw [Text.getLast?_append_cons, List.getLast?_cons_of_ne_nil hne]
  have hblank : s.front.getLast? = some ' ' := by
    rw [← hinit]
    simp [byWord]
  have hend := h.metric_trimmed.last
  rw [← hlast, hblank] at hend
  exact absurd hend (by decide)

theorem head?_text (h : s.Readable) :
    head? s.text.toList = some (s.aggregation.text.toList, s.metric.toList) := by
  have htext : s.text.toList = s.aggregation.text.toList ++
      ':' :: (s.metric.toList ++ '{' :: (s.selector ++ '}' :: s.ending)) := by
    simp [text, written, front]
  rw [htext]
  exact head?_append (aggregation_ofToken? h) (by simpa using h.metric_ne) h.metric_marks

/-! ## The selector -/

theorem brace_not_mem_selector (h : s.Readable) : '{' ∉ s.selector ∧ '}' ∉ s.selector :=
  ⟨Text.not_mem_intercalate (by decide) fun t ht => (h.tokens t ht).2.1,
    Text.not_mem_intercalate (by decide) fun t ht => (h.tokens t ht).2.2⟩

/-- **The first block is the selector.** -/
theorem selector?_written (h : s.Readable) : selector? s.written = some s.selector :=
  selector?_append_block (opening_not_mem_front h) (brace_not_mem_selector h).2

/-- The filters are those of the tokens; a selector without tokens reads as one empty token. -/
theorem filtersOfSelector_selector (h : s.Readable) :
    filtersOfSelector s.selector = s.tokens.filterMap Filter.ofToken? := by
  unfold filtersOfSelector selector
  by_cases hnil : s.tokens = []
  · rw [hnil]
    rfl
  · rw [List.splitOn_intercalate _ (fun t ht => (h.tokens t ht).1) hnil]

theorem selectorFilters_text (h : s.Readable) :
    selectorFilters s.text = s.tokens.filterMap Filter.ofToken? := by
  rw [selectorFilters, toList_text, selector?_written h]
  exact filtersOfSelector_selector h

/-! ## The by clause -/

theorem closing_not_mem_clause (h : s.Readable) : '}' ∉ s.clause :=
  Text.not_mem_intercalate (by decide) fun g hg => (h.groups g hg).2.2

/-- A clause with names has a text. -/
theorem clause_ne_nil (h : s.Readable) (hgroups : s.groups ≠ []) : s.clause ≠ [] := by
  intro hnil
  have hjoin : Text.join "," (s.groups.map String.ofList) = "" := by
    rw [← String.toList_inj]
    simpa [Text.join, clause, Function.comp_def] using hnil
  rcases (Text.join_eq_empty_iff (by decide)).1 hjoin with hempty | hblank
  · exact hgroups (List.map_eq_nil_iff.1 hempty)
  · obtain ⟨g, hg, hname⟩ := List.map_eq_singleton_iff.1 hblank
    rw [String.ofList_eq_empty_iff] at hname
    exact h.groups_ne (hname ▸ hg)

/-- **Of the two blocks only the one behind ` by ` is a by clause.** -/
theorem byClause?_written (h : s.Readable) :
    byClause? s.written = if s.groups = [] then none else some s.clause := by
  have hopening := (brace_not_mem_selector h).1
  -- the selector's own brace is passed; behind it the only other one is that of the clause
  rw [written, byClause?_append_brace (opening_not_mem_front h) (not_byWord_suffix_front h)]
  by_cases hgroups : s.groups = []
  · rw [if_pos hgroups, ending, if_pos hgroups]
    refine byClause?_eq_none fun hmem => ?_
    rcases List.mem_append.1 hmem with hmem | hmem
    · exact hopening hmem
    · rcases List.mem_cons.1 hmem with hbrace | hmem
      · exact absurd hbrace (by decide)
      · exact h.tail_marks hmem
  · have hfront : '{' ∉ s.selector ++ ['}', ' '] := by
      simp [hopening]
    have htext : s.selector ++ '}' :: s.ending =
        s.selector ++ ['}', ' '] ++ byWord ++ '{' :: (s.clause ++ '}' :: s.tail) := by
      simp [ending, hgroups]
    rw [if_neg hgroups, htext, byClause?_append_by_brace hfront (closing_not_mem_clause h)
      (clause_ne_nil h hgroups)]

theorem byAttributes_text (h : s.Readable) : byAttributes s.text = s.names := by
  unfold byAttributes names
  rw [toList_text, byClause?_written h]
  by_cases hgroups : s.groups = []
  · rw [if_pos hgroups, hgroups]
    rfl
  · rw [if_neg hgroups, clause]
    dsimp only
    rw [List.splitOn_intercalate _ (fun g hg => (h.groups g hg).1) hgroups]

/-- A query without a by clause is grouped by the wildcards of its selector. -/
theorem groupLabels_text (h : s.Readable) (labels : Label.Table) :
    groupLabels s.text labels =
      if s.groups = [] then
        (wildcardLabels s.selector).map fun label => labels.labelOf (String.ofList label)
      else s.names.map labels.labelOf := by
  have hclause := byClause?_written h
  rw [← toList_text] at hclause
  by_cases hgroups : s.groups = []
  · rw [if_pos hgroups] at hclause ⊢
    exact groupLabels_eq_of_byClause?_eq_none labels hclause
      (toList_text s ▸ selector?_written h)
  · rw [if_neg hgroups] at hclause ⊢
    rw [groupLabels_eq_map_byAttributes labels (hclause ▸ rfl), byAttributes_text h]

/-! ## The modifiers -/

theorem hasInfix_ending (s : Layout) (m : Modifier) :
    Text.hasInfix m.written s.ending =
      (s.groups.any (Text.hasInfix m.written) || Text.hasInfix m.written s.tail) := by
  have hclause : Text.hasInfix m.written s.clause = s.groups.any (Text.hasInfix m.written) :=
    Text.hasInfix_intercalate (m.mark_not_mem_written (by decide)) m.written_ne_nil s.groups
  unfold ending
  split
  · rename_i hgroups
    rw [hgroups, List.any_nil, Bool.false_or]
  · rw [m.hasInfix_append_mark (by decide), m.hasInfix_append_mark (by decide), hclause,
      Text.hasInfix_eq_false_of_not_mem m.dot_mem_written (by decide), Bool.false_or]

/-- **A modifier occurs in the text of a query exactly if it occurs in one of its parts.** -/
theorem hasInfix_written (s : Layout) (m : Modifier) :
    Text.hasInfix m.written s.written =
      (Text.hasInfix m.written s.front || (s.tokens.any (Text.hasInfix m.written) ||
        (s.groups.any (Text.hasInfix m.written) || Text.hasInfix m.written s.tail))) := by
  have hselector : Text.hasInfix m.written s.selector = s.tokens.any (Text.hasInfix m.written) :=
    Text.hasInfix_intercalate (m.mark_not_mem_written (by decide)) m.written_ne_nil s.tokens
  rw [written, m.hasInfix_append_mark (by decide), m.hasInfix_append_mark (by decide), hselector,
    hasInfix_ending]

theorem modifiers_scan_text (s : Layout) :
    Modifiers.scan s.text =
      ⟨Text.hasInfix Modifier.count.written s.written,
        Text.hasInfix Modifier.rate.written s.written⟩ := by
  rw [Modifiers.scan, toList_text]
  rfl

/-! ## The whole query -/

/-- **What is read from a laid-out query.** -/
theorem parse_eq (h : s.Readable) (labels : Label.Table) :
    parse s.text labels = .ok
      { aggregation := s.aggregation
        metric := s.metric
        filters := s.tokens.filterMap Filter.ofToken?
        groupBy :=
          if s.groups = [] then
            (wildcardLabels s.selector).map fun label => labels.labelOf (String.ofList label)
          else s.names.map labels.labelOf
        byClause := s.names
        modifiers :=
          ⟨Text.hasInfix Modifier.count.written s.written,
            Text.hasInfix Modifier.rate.written s.written⟩ } := by
  rw [parse_eq_ok labels (head?_text h) (aggregation_ofToken? h),
    Text.trim_eq_self h.metric_trimmed, String.ofList_toList, selectorFilters_text h,
    groupLabels_text h, byAttributes_text h, modifiers_scan_text]

end Layout

end DashQuery.Query

import DashQuery.Proofs.FilterTokens
import DashQuery.Proofs.Layout

/-!
# Written queries are read back

A query is written as

```
AGGREGATION:metric{filter,filter} by {attribute,attribute}.modifier()
```

The text lays out the tokens of the filters and the attributes (`Source.layout`), so the parts are
found where they were put.  What remains is that every part is read back from its own text, and that
no part has a modifier in it.

* `Filter.Writable.printable`: every filter of a query that can be written has a token of its own.
* `Source.Writable.readable`: the layout of a query that can be written is readable.
* `Source.hasInfix_written`: a modifier occurs in the text only where it was put.
* `parse_text`: a query is read back as it was written.
-/

namespace DashQuery.Query

/-! ## Writing -/

/-- A query as it is written. -/
structure Source where
  aggregation : Aggregation
  metric : String
  filters : List Filter
  /-- The attributes of the by clause; there is no clause without attributes. -/
  groups : List String
  modifiers : List Modifier
  deriving DecidableEq, Repr

namespace Source

/-- The text between the braces of the selector. -/
def selector (s : Source) : List Char := [','].intercalate (s.filters.map Filter.written)

/-- The text between the braces of the by clause. -/
def clause (s : Source) : List Char := [','].intercalate (s.groups.map String.toList)

/-- The modifiers, one behind the other. -/
def modifierText (s : Source) : List Char := s.modifiers.flatMap Modifier.written

/-- The text behind the selector. -/
def ending (s : Source) : List Char :=
  if s.groups = [] then s.modifierText
  else ' ' :: byWord ++ '{' :: (s.clause ++ '}' :: s.modifierText)

/-- The characters of a written query. -/
def written (s : Source) : List Char :=
  s.aggregation.text.toList ++ ':' :: s.metric.toList ++ '{' :: (s.selector ++ '}' :: s.ending)

/-- A written query. -/
def text (s : Source) : String := String.ofList s.written

end Source

/-! ## What can be written -/

/-- A filter whose token can be read back: its key and value are free of the marks around them,
and trimming the token, dropping one `!` and looking for `$` does not take hold of the key. -/
structure Filter.Writable (f : Filter) : Prop where
  key_marks : ':' ∉ f.key.toList ∧ ',' ∉ f.key.toList ∧ '{' ∉ f.key.toList ∧ '}' ∉ f.key.toList
  value_marks : ',' ∉ f.value.toList ∧ '{' ∉ f.value.toList ∧ '}' ∉ f.value.toList
  key_head : f.key.toList.head? ≠ some '$'
  plain_head : f.negated = false →
    f.key.toList.head? ≠ some '!' ∧ f.key.toList.head?.any Text.isBlank = false
  value_last : f.value.toList.getLast?.any Text.isBlank = false
  wildcard_iff : f.wildcard = true ↔ '*' ∈ f.value.toList ∨ '?' ∈ f.value.toList

instance (f : Filter) : Decidable f.Writable :=
  decidable_of_iff
    ((':' ∉ f.key.toList ∧ ',' ∉ f.key.toList ∧ '{' ∉ f.key.toList ∧ '}' ∉ f.key.toList) ∧
      (',' ∉ f.value.toList ∧ '{' ∉ f.value.toList ∧ '}' ∉ f.value.toList) ∧
      f.key.toList.head? ≠ some '$' ∧
      (f.negated = false →
        f.key.toList.head? ≠ some '!' ∧ f.key.toList.head?.any Text.isBlank = false) ∧
      f.value.toList.getLast?.any Text.isBlank = false ∧
      (f.wildcard = true ↔ '*' ∈ f.value.toList ∨ '?' ∈ f.value.toList))
    ⟨fun ⟨key, value, head, plain, last, wildcard⟩ => ⟨key, value, head, plain, last, wildcard⟩,
      fun h => ⟨h.key_marks, h.value_marks, h.key_head, h.plain_head, h.value_last,
        h.wildcard_iff⟩⟩

/-- The parts of a query that are free text. -/
def Source.parts (s : Source) : List (List Char) :=
  s.metric.toList ::
    (s.filters.flatMap fun f => [f.key.toList, f.value.toList]) ++ s.groups.map String.toList

/-- A query that can be read back from its text. -/
structure Source.Writable (s : Source) : Prop where
  rank : ∀ rank, s.aggregation = .percentile rank → Aggregation.isRank rank.toList = true
  metric_ne : s.metric ≠ ""
  metric_marks : '{' ∉ s.metric.toList
  metric_trimmed : Text.Trimmed s.metric.toList
  filters : ∀ f ∈ s.filters, f.Writable
  group_marks : ∀ g ∈ s.groups, ',' ∉ g.toList ∧ '{' ∉ g.toList ∧ '}' ∉ g.toList
  group_trimmed : ∀ g ∈ s.groups, Text.Trimmed g.toList
  groups_ne : s.groups ≠ [""]
  no_modifier : ∀ (m : Modifier), ∀ part ∈ s.parts, Text.hasInfix m.written part = false

/-! ## Filters -/

namespace Filter

variable {f : Filter}

theorem Writable.printable (h : f.Writable) : f.Printable :=
  ⟨h.key_marks.1, h.key_head, h.plain_head, h.value_last, h.wildcard_iff⟩

/-- Filters are read back from their tokens. -/
theorem filterMap_ofToken?_written {fs : List Filter} (h : ∀ f ∈ fs, f.Writable) :
    (fs.map written).filterMap ofToken? = fs := by
  induction fs with
  | nil => rfl
  | cons f fs ih =>
    rw [List.map_cons, List.filterMap_cons, ofToken?_written (h f List.mem_cons_self).printable,
      ih fun g hg => h g (List.mem_cons_of_mem _ hg)]

theorem not_mem_written {mark : Char} (hkey : mark ∉ f.key.toList) (hvalue : mark ∉ f.value.toList)
    (hsign : mark ≠ '!') (hcolon : mark ≠ ':') : mark ∉ f.written := by
  unfold written
  split <;> simp [hkey, hvalue, hsign, hcolon]

/-- A token has no marks in it but its own. -/
theorem Writable.isPiece (h : f.Writable) : Layout.IsPiece f.written := by
  obtain ⟨-, hkey⟩ := h.key_marks
  have hvalue := h.value_marks
  exact ⟨not_mem_written hkey.1 hvalue.1 (by decide) (by decide),
    not_mem_written hkey.2.1 hvalue.2.1 (by decide) (by decide),
    not_mem_written hkey.2.2 hvalue.2.2 (by decide) (by decide)⟩

end Filter

namespace Source

variable {s : Source}

/-! ## The layout -/

/-- The layout of a query: the tokens of its filters and its attributes as they are. -/
def layout (s : Source) : Layout :=
  { aggregation := s.aggregation
    metric := s.metric
    tokens := s.filters.map Filter.written
    groups := s.groups.map String.toList
    tail := s.modifierText }

theorem written_layout (s : Source) : s.layout.written = s.written := by
  have hending : s.layout.ending = s.ending := by
    simp [Layout.ending, ending, layout, Layout.clause, clause]
  rw [Layout.written, hending]
  rfl

theorem text_layout (s : Source) : s.layout.text = s.text :=
  congrArg String.ofList s.written_layout

theorem opening_not_mem_modifierText : '{' ∉ s.modifierText := by
  intro hmem
  obtain ⟨m, -, hm⟩ := List.mem_flatMap.1 hmem
  exact m.mark_not_mem_written (by decide) hm

theorem Writable.readable (h : s.Writable) : s.layout.Readable where
  rank := h.rank
  metric_ne := h.metric_ne
  metric_marks := h.metric_marks
  metric_trimmed := h.metric_trimmed
  tokens := by
    intro token htoken
    obtain ⟨f, hf, rfl⟩ := List.mem_map.1 htoken
    exact (h.filters f hf).isPiece
  groups := by
    intro piece hpiece
    obtain ⟨g, hg, rfl⟩ := List.mem_map.1 hpiece
    exact h.group_marks g hg
  groups_ne := by
    intro hsingle
    obtain ⟨g, hg, hname⟩ := List.map_eq_singleton_iff.1 hsingle
    rw [String.toList_eq_nil_iff] at hname
    exact h.groups_ne (hname ▸ hg)
  tail_marks := opening_not_mem_modifierText

/-! ## The parts -/

/-- The attributes of a clause are read back from it. -/
theorem names_layout (h : s.Writable) : s.layout.names = s.groups := by
  rw [Layout.names, layout, List.map_map]
  refine (List.map_congr_left fun g hg => ?_).trans (List.map_id _)
  show String.ofList (Text.trim g.toList) = g
  rw [Text.trim_eq_self (h.group_trimmed g hg), String.ofList_toList]

theorem byAttributes_text (h : s.Writable) : byAttributes s.text = s.groups := by
  rw [← text_layout, Layout.byAttributes_text h.readable, names_layout h]

end Source

/-! ## The modifiers -/

namespace Modifier

/-- A modifier does not begin inside another one. -/
theorem hasInfix_written_append (m n : Modifier) (cs : List Char) :
    Text.hasInfix m.written (n.written ++ cs) = (m == n || Text.hasInfix m.written cs) := by
  cases m <;> cases n <;> rfl

theorem hasInfix_flatMap_written (m : Modifier) (ms : List Modifier) :
    Text.hasInfix m.written (ms.flatMap written) = ms.contains m := by
  induction ms with
  | nil => cases m <;> rfl
  | cons n ms ih => rw [List.flatMap_cons, hasInfix_written_append, ih, List.contains_cons]

/-- A modifier that is in no part of a filter is not in its token. -/
theorem hasInfix_filter_written {m : Modifier} {f : Filter}
    (hkey : Text.hasInfix m.written f.key.toList = false)
    (hvalue : Text.hasInfix m.written f.value.toList = false) :
    Text.hasInfix m.written f.written = false := by
  have hbody : Text.hasInfix m.written (f.key.toList ++ ':' :: f.value.toList) = false := by
    rw [m.hasInfix_append_mark (by decide), hkey, hvalue, Bool.or_self]
  unfold Filter.written
  split
  · -- the sign is a mark behind the empty text
    show Text.hasInfix m.written ([] ++ '!' :: (f.key.toList ++ ':' :: f.value.toList)) = false
    rw [m.hasInfix_append_mark (by decide), hbody, Bool.or_false]
    exact Text.hasInfix_eq_false_of_not_mem m.dot_mem_written List.not_mem_nil
  · exact hbody

end Modifier

namespace Source

variable {s : Source}

theorem aggregation_ofToken? (h : s.Writable) :
    Aggregation.ofToken? s.aggregation.text.toList = some s.aggregation :=
  Aggregation.ofToken?_text h.rank

theorem hasInfix_front (h : s.Writable) (m : Modifier) :
    Text.hasInfix m.written s.layout.front = false := by
  have hdot : '.' ∉ s.layout.aggregation.text.toList :=
    not_mem_of_ofToken? (aggregation_ofToken? h) (by decide)
  rw [Layout.front, m.hasInfix_append_mark (by decide),
    Text.hasInfix_eq_false_of_not_mem m.dot_mem_written hdot, Bool.false_or]
  exact h.no_modifier m _ (by simp [parts, layout])

theorem hasInfix_tokens (h : s.Writable) (m : Modifier) :
    s.layout.tokens.any (Text.hasInfix m.written) = false := by
  rw [layout, List.any_map, List.any_eq_false]
  intro f hf
  have hparts : f.key.toList ∈ s.parts ∧ f.value.toList ∈ s.parts := by
    constructor <;>
      exact List.mem_append_left _ (List.mem_cons_of_mem _ (List.mem_flatMap.2 ⟨f, hf, by simp⟩))
  rw [Bool.not_eq_true]
  exact Modifier.hasInfix_filter_written (h.no_modifier m _ hparts.1) (h.no_modifier m _ hparts.2)

theorem hasInfix_groups (h : s.Writable) (m : Modifier) :
    s.layout.groups.any (Text.hasInfix m.written) = false := by
  rw [List.any_eq_false]
  intro piece hpiece
  rw [Bool.not_eq_true]
  exact h.no_modifier m _ (List.mem_append_right _ hpiece)

/-- **A modifier occurs in the text of a query only where it was put.** -/
theorem hasInfix_written (h : s.Writable) (m : Modifier) :
    Text.hasInfix m.written s.written = s.modifiers.contains m := by
  rw [← written_layout, Layout.hasInfix_written, hasInfix_front h, hasInfix_tokens h,
    hasInfix_groups h, Bool.false_or, Bool.false_or, Bool.false_or]
  exact m.hasInfix_flatMap_written s.modifiers

theorem modifiers_scan_text (h : s.Writable) :
    Modifiers.scan s.text = ⟨s.modifiers.contains .count, s.modifiers.contains .rate⟩ := by
  rw [← text_layout, Layout.modifiers_scan_text, written_layout, hasInfix_written h,
    hasInfix_written h]

/-! ## The whole query -/

theorem head?_text (h : s.Writable) :
    head? s.text.toList = some (s.aggregation.text.toList, s.metric.toList) := by
  rw [← text_layout]
  exact Layout.head?_text h.readable

theorem selectorFilters_text (h : s.Writable) : selectorFilters s.text = s.filters := by
  rw [← text_layout, Layout.selectorFilters_text h.readable]
  exact Filter.filterMap_ofToken?_written h.filters

theorem groupLabels_text (h : s.Writable) (labels : Label.Table) :
    groupLabels s.text labels =
      if s.groups = [] then
        (wildcardLabels s.selector).map fun label => labels.labelOf (String.ofList label)
      else s.groups.map labels.labelOf := by
  have hgroups : s.layout.groups = [] ↔ s.groups = [] := List.map_eq_nil_iff
  rw [← text_layout, Layout.groupLabels_text h.readable, names_layout h]
  simp only [hgroups]
  rfl

end Source

/-- **A query is read back as it was written.**  Without attributes behind it the query is grouped
by the wildcards of its selector. -/
theorem parse_text (s : Source) (h : s.Writable) (labels : Label.Table) :
    parse s.text labels = .ok
      { aggregation := s.aggregation
        metric := s.metric
        filters := s.filters
        groupBy :=
          if s.groups = [] then
            (wildcardLabels s.selector).map fun label => labels.labelOf (String.ofList label)
          else s.groups.map labels.labelOf
        byClause := s.groups
        modifiers := ⟨s.modifiers.contains .count, s.modifiers.contains .rate⟩ } := by
  rw [parse_eq_ok labels (Source.head?_text h) (Source.aggregation_ofToken? h),
    Text.trim_eq_self h.metric_trimmed, String.ofList_toList, Source.selectorFilters_text h,
    Source.groupLabels_text h, Source.byAttributes_text h, Source.modifiers_scan_text h]

/-- A percentile with a negated wildcard, an empty value, a nameless attribute and a modifier. -/
def Source.irregular : Source :=
  { aggregation := .percentile "095"
    metric := "standby"
    filters := [⟨"!k", "a*", true, true⟩, ⟨"host", "", false, false⟩]
    groups := ["", "b y"]
    modifiers := [.rate] }

theorem parse_text_irregular :
    Source.irregular.text = "p095:standby\x7b!!k:a*,host:\x7d by \x7b,b y\x7d.as_rate()" ∧
      Source.irregular.Writable ∧
      parse Source.irregular.text .empty = .ok
        ⟨.percentile "095", "standby", [⟨"!k", "a*", true, true⟩, ⟨"host", "", false, false⟩],
          ["", "b y"], ["", "b y"], ⟨false, true⟩⟩ := by
  have hwritable : Source.irregular.Writable := by
    constructor
    case rank =>
      rintro rank ⟨⟩
      decide
    case no_modifier =>
      intro m
      cases m <;> decide
    all_goals decide
  exact ⟨by decide, hwritable, parse_text _ hwritable .empty⟩

end DashQuery.Query

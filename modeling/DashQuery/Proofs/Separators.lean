import DashQuery.Conversion
import DashQuery.Proofs.Titles
import DashQuery.Proofs.Unambiguous

/-!
# Tabs and line feeds in conversions

Titles and PromQL take over texts of the query as they are.  Everything else in them is fixed or
made of letters and digits, so a tab or a line feed in a title or in PromQL comes from such a text;
and none of these texts loses one on the way.

* `mem_title_iff`: the separators of a title are those of the attributes that it shows.
* `Promql.Expr.mem_render_iff`: the separators of an expression are those of the texts inside it.
* `mem_render_ofQuery_iff`: the texts inside it are those that the query hands on.
* `onOneLine_iff`: which queries are converted without a separator in the wrong place.
-/

namespace DashQuery

namespace Text

variable {c : Char} {cs : List Char}

/-- A character that ends a field or a line of what is printed. -/
def IsSeparator (c : Char) : Prop := c = '\t' ∨ c = '\n'

theorem isSeparator_tab : IsSeparator '\t' := Or.inl rfl

theorem isSeparator_newline : IsSeparator '\n' := Or.inr rfl

theorem IsSeparator.isAlphanum (hc : IsSeparator c) : c.isAlphanum = false := by
  rcases hc with rfl | rfl <;> decide

/-- A fixed text without separators adds none. -/
theorem IsSeparator.not_mem (hc : IsSeparator c) (h : '\t' ∉ cs ∧ '\n' ∉ cs) : c ∉ cs := by
  rcases hc with rfl | rfl
  · exact h.1
  · exact h.2

theorem IsSeparator.precedesLetters (hc : IsSeparator c) : PrecedesLetters c := by
  rcases hc with rfl | rfl <;> constructor <;> decide

end Text

open Text (IsSeparator)

namespace Query

variable {c : Char} {q : Query} {text : String} {labels : Label.Table}

/-! ## Titles -/

/-- The texts that a title shows: the only attribute of the by clause, or the last words of all. -/
def shownTexts (q : Query) : List String :=
  match q.byClause with
  | [] => []
  | [source] => [source]
  | sources => sources.map fun s => String.ofList (attributeLeaf s.toList)

theorem mem_attributeWords_iff (hc : IsSeparator c) {cs : List Char} :
    c ∈ attributeWords cs ↔ c ∈ cs := by
  have hblank : c ≠ ' ' := by rcases hc with rfl | rfl <;> decide
  have hdot : c ≠ '.' := by rcases hc with rfl | rfl <;> decide
  rw [attributeWords, mem_spaceCamel_iff hblank, Text.mem_replaceChar_iff hdot (by simpa)]

/-- **The separators of a title are those of the texts that it shows.** -/
theorem mem_title_iff (hc : IsSeparator c) (h : parse text labels = .ok q) :
    c ∈ q.title.toList ↔ Text.OccursIn c q.shownTexts := by
  have hby : c ∉ "By ".toList := hc.not_mem (by decide)
  have hcomma : c ∉ ", ".toList := hc.not_mem (by decide)
  rw [title, shownTexts]
  rcases q.byClause with _ | ⟨source, _ | ⟨source', sources⟩⟩
  · obtain ⟨_, _, _, ha, _⟩ := exists_head?_of_parse h
    simp [not_mem_aggregation_title hc.precedesLetters hc.isAlphanum ha]
  · rw [String.toList_append, List.mem_append, or_iff_right hby, String.toList_ofList,
      Text.mem_capitalize_iff hc.precedesLetters, mem_attributeWords_iff hc]
    simp
  · rw [String.toList_append, List.mem_append, or_iff_right hby, Text.mem_join_iff hcomma]

end Query

namespace Promql

variable {c : Char}

/-! ## Expressions -/

/-- The texts inside a matcher. -/
def Matcher.texts (m : Matcher) : List String := [m.label, m.value]

/-- The texts inside a selector. -/
def Selector.texts (s : Selector) : List String := s.metric :: s.matchers.flatMap Matcher.texts

/-- The texts inside an expression. -/
def Expr.texts : Expr → List String
  | .selector s => s.texts
  | .range s window => window :: s.texts
  | .call _ arg => arg.texts
  | .aggregate _ grouping arg => grouping ++ arg.texts
  | .quantile _ arg => arg.texts

theorem Matcher.mem_render_iff (hc : IsSeparator c) (m : Matcher) :
    c ∈ m.render.toList ↔ Text.OccursIn c m.texts := by
  have hsign : c ∉ m.op.sign.toList := by
    cases m.op <;> exact hc.not_mem (by decide)
  have hquote : c ∉ "\"".toList := hc.not_mem (by decide)
  rw [render, texts]
  simp only [String.toList_append, List.mem_append, hsign, hquote, or_false, Text.occursIn_cons,
    Text.not_occursIn_nil]

theorem mem_join_matchers_iff (hc : IsSeparator c) (ms : List Matcher) :
    c ∈ (String.join (ms.map fun m => ", " ++ m.render)).toList ↔
      Text.OccursIn c (ms.flatMap Matcher.texts) := by
  have hcomma : c ∉ ", ".toList := hc.not_mem (by decide)
  induction ms with
  | nil => simp
  | cons m ms ih =>
    rw [List.map_cons, String.join_cons, String.toList_append, String.toList_append,
      List.mem_append, List.mem_append, or_iff_right hcomma, m.mem_render_iff hc,
      List.flatMap_cons, Text.occursIn_append]
    exact or_congr Iff.rfl ih

theorem Selector.mem_render_iff (hc : IsSeparator c) (s : Selector) :
    c ∈ s.render.toList ↔ Text.OccursIn c s.texts := by
  have hkind : c ∉ s.kind.name.toList := by
    cases s.kind <;> exact hc.not_mem (by decide)
  have hopen : c ∉ "\x7b".toList := hc.not_mem (by decide)
  have hmetric : c ∉ metricLabel.toList := hc.not_mem (by decide)
  have hequal : c ∉ " = \"".toList := hc.not_mem (by decide)
  have hcomma : c ∉ "\", ".toList := hc.not_mem (by decide)
  have hlabel : c ∉ kindLabel.toList := hc.not_mem (by decide)
  have hquote : c ∉ "\"".toList := hc.not_mem (by decide)
  have hclose : c ∉ "\x7d".toList := hc.not_mem (by decide)
  rw [render, texts]
  simp only [String.toList_append, List.mem_append, hkind, hopen, hmetric, hequal, hcomma, hlabel,
    hquote, hclose, or_false, false_or, mem_join_matchers_iff hc, Text.occursIn_cons]

/-- The words and brackets of expressions hold no separators. -/
theorem not_mem_operator_name (hc : IsSeparator c) (op : Operator) : c ∉ op.name.toList := by
  cases op <;> exact hc.not_mem (by decide)

theorem not_mem_function_name (hc : IsSeparator c) (f : Function) : c ∉ f.name.toList := by
  cases f <;> exact hc.not_mem (by decide)

/-- **The separators of an expression are those of the texts inside it.** -/
theorem Expr.mem_render_iff (hc : IsSeparator c) (e : Expr) :
    c ∈ e.render.toList ↔ Text.OccursIn c e.texts := by
  have hopen : c ∉ "(".toList := hc.not_mem (by decide)
  have hclose : c ∉ ")".toList := hc.not_mem (by decide)
  induction e with
  | selector s => exact s.mem_render_iff hc
  | range s window =>
    have hleft : c ∉ "[".toList := hc.not_mem (by decide)
    have hright : c ∉ "]".toList := hc.not_mem (by decide)
    rw [render_range, texts, Text.occursIn_cons, or_comm]
    simp only [String.toList_append, List.mem_append, hleft, hright, or_false, s.mem_render_iff hc]
  | call f arg ih =>
    rw [render_call, texts]
    simp only [String.toList_append, List.mem_append, not_mem_function_name hc f, hopen, hclose,
      or_false, false_or, ih]
  | aggregate op grouping arg ih =>
    by_cases hnil : grouping = []
    · rw [hnil, render_aggregate_nil, texts, List.nil_append]
      simp only [String.toList_append, List.mem_append, not_mem_operator_name hc op, hopen, hclose,
        or_false, false_or, ih]
    · have hby : c ∉ " by (".toList := hc.not_mem (by decide)
      have hbetween : c ∉ ") (".toList := hc.not_mem (by decide)
      have hcomma : c ∉ ", ".toList := hc.not_mem (by decide)
      rw [render_aggregate hnil, texts, Text.occursIn_append]
      simp only [String.toList_append, List.mem_append, not_mem_operator_name hc op, hby, hbetween,
        hclose, or_false, false_or, ih, Text.mem_join_iff hcomma]
  | quantile x arg ih =>
    have hword : c ∉ "histogram_quantile(".toList := hc.not_mem (by decide)
    have hcomma : c ∉ ", ".toList := hc.not_mem (by decide)
    have hnumber : c ∉ (Decimal.plainText x).toList :=
      Decimal.not_mem_plainText x (by rcases hc with rfl | rfl <;> decide)
    rw [render_quantile, texts]
    simp only [String.toList_append, List.mem_append, hword, hcomma, hnumber, hclose, or_false,
      false_or, ih]

end Promql

/-! ## Queries -/

namespace Query

variable {c : Char} {q : Query} {text : String} {labels : Label.Table}

/-- The texts that a query hands on to its PromQL: the metric, the labels and values of the filters,
and the labels to group by. -/
def handedOn (q : Query) (labels : Label.Table) : List String :=
  q.metric :: q.filters.flatMap (fun f => [labels.labelOf f.key, f.value]) ++ q.groupBy

/-- A glob becomes a pattern without losing a separator. -/
theorem mem_globPattern_iff (hc : IsSeparator c) (value : String) :
    c ∈ (Filter.globPattern value).toList ↔ c ∈ value.toList := by
  have hstar : c ≠ '*' := by rcases hc with rfl | rfl <;> decide
  have hquestion : c ≠ '?' := by rcases hc with rfl | rfl <;> decide
  rw [Filter.globPattern, String.toList_ofList,
    Text.mem_replaceChar_iff hquestion (hc.not_mem (by decide)),
    Text.mem_replaceChar_iff hstar (hc.not_mem (by decide))]

theorem occursIn_texts_matcher_iff (hc : IsSeparator c) (f : Filter) :
    Text.OccursIn c (f.matcher labels).texts ↔
      Text.OccursIn c [labels.labelOf f.key, f.value] := by
  unfold Filter.matcher
  cases f.wildcard <;> cases f.negated <;>
    simp only [Promql.Matcher.texts, Text.occursIn_cons, mem_globPattern_iff hc]

theorem occursIn_texts_selectorOf_iff (hc : IsSeparator c) (kind : Metric.Kind) :
    Text.OccursIn c (Promql.selectorOf q kind labels).texts ↔
      Text.OccursIn c
        (q.metric :: q.filters.flatMap fun f => [labels.labelOf f.key, f.value]) := by
  rw [Promql.Selector.texts, Text.occursIn_cons, Text.occursIn_cons]
  refine or_congr Iff.rfl ?_
  show Text.OccursIn c (List.flatMap _ (q.filters.map _)) ↔ _
  induction q.filters with
  | nil => rfl
  | cons f fs ih =>
    rw [List.map_cons, List.flatMap_cons, List.flatMap_cons, Text.occursIn_append,
      Text.occursIn_append, occursIn_texts_matcher_iff hc]
    exact or_congr Iff.rfl ih

/-- A grouping is left out only if it is blank. -/
theorem not_occursIn_groupBy (h : q.isGrouped = false) : ¬ Text.OccursIn c q.groupBy := by
  rw [isGrouped_iff, bne_eq_false_iff_eq, Text.join_eq_empty_iff (by decide)] at h
  rcases h with h | h <;> simp [h]

theorem occursIn_grouping_iff : Text.OccursIn c q.grouping ↔ Text.OccursIn c q.groupBy := by
  cases hgrouped : q.isGrouped with
  | true => rw [grouping_of_isGrouped hgrouped]
  | false =>
    rw [grouping_of_not_isGrouped hgrouped]
    exact iff_of_false (Text.not_occursIn_nil c) (not_occursIn_groupBy hgrouped)

end Query

namespace Promql.Expr

variable {c : Char} {q : Query} {s : Selector} {e : Expr}

/-- The window holds no separator. -/
theorem occursIn_texts_rate (hc : IsSeparator c) :
    Text.OccursIn c (rate s).texts ↔ Text.OccursIn c s.texts := by
  have hwindow : c ∉ rateWindow.toList := hc.not_mem (by decide)
  rw [rate, texts, texts, Text.occursIn_cons, or_iff_right hwindow]

theorem occursIn_texts_increase (hc : IsSeparator c) :
    Text.OccursIn c (increase s).texts ↔ Text.OccursIn c s.texts :=
  occursIn_texts_rate hc

theorem occursIn_texts_aggregate (op : Operator) :
    Text.OccursIn c (aggregate op q.grouping e).texts ↔
      Text.OccursIn c q.groupBy ∨ Text.OccursIn c e.texts := by
  rw [texts, Text.occursIn_append, Query.occursIn_grouping_iff]

theorem occursIn_texts_sumBy :
    Text.OccursIn c (sumBy q.grouping e).texts ↔
      Text.OccursIn c q.groupBy ∨ Text.OccursIn c e.texts := by
  rw [sumBy, ← Query.occursIn_grouping_iff]
  split
  · rename_i hempty
    rw [List.isEmpty_iff.1 hempty, or_iff_right (Text.not_occursIn_nil c)]
  · rw [texts, Text.occursIn_append]

theorem occursIn_texts_total (hc : IsSeparator c) (special? : Option Override) :
    Text.OccursIn c (total q special? s).texts ↔
      Text.OccursIn c q.groupBy ∨ Text.OccursIn c s.texts := by
  rw [total, texts]
  split
  · rw [occursIn_texts_aggregate, occursIn_texts_increase hc]
  · rename_i hungrouped
    rw [Bool.or_eq_true, not_or, Bool.not_eq_true] at hungrouped
    rw [or_iff_right (Query.not_occursIn_groupBy hungrouped.1), occursIn_texts_increase hc]

theorem occursIn_quantileGrouping (hc : IsSeparator c) :
    Text.OccursIn c (quantileGrouping q) ↔ Text.OccursIn c q.groupBy := by
  have hle : c ∉ "le".toList := hc.not_mem (by decide)
  rw [quantileGrouping]
  split
  · rw [Text.occursIn_append, Text.occursIn_cons,
      or_iff_left (not_or.2 ⟨hle, Text.not_occursIn_nil c⟩)]
  · rename_i hgrouped
    rw [Bool.not_eq_true] at hgrouped
    exact iff_of_false (Text.not_occursIn_nil c) (Query.not_occursIn_groupBy hgrouped)

theorem occursIn_texts_extreme (hc : IsSeparator c) (op : Operator) (kind : Metric.Kind) :
    Text.OccursIn c (extreme op q kind s).texts ↔
      Text.OccursIn c q.groupBy ∨ Text.OccursIn c s.texts := by
  cases kind with
  | histogram => rw [extreme, texts, occursIn_texts_aggregate, occursIn_texts_rate hc]
  | sum => rw [extreme, occursIn_texts_aggregate, occursIn_texts_rate hc]
  | gauge => rw [extreme, occursIn_texts_aggregate, texts]

/-- **The separators inside the expression of a query** are those of its labels to group by and of
its selector, whatever stands around them. -/
theorem occursIn_texts_ofQuery (hc : IsSeparator c) (kind : Metric.Kind) (labels : Label.Table) :
    Text.OccursIn c (ofQuery q kind labels).texts ↔
      Text.OccursIn c q.groupBy ∨ Text.OccursIn c (selectorOf q kind labels).texts := by
  unfold ofQuery
  cases q.aggregation with
  | percentile rank =>
    dsimp only
    rw [texts, texts, Text.occursIn_append, occursIn_quantileGrouping hc, occursIn_texts_rate hc]
  | count =>
    dsimp only
    split
    · rw [occursIn_texts_aggregate, occursIn_texts_rate hc]
    · exact occursIn_texts_total hc _
  | sum =>
    cases kind with
    | histogram => exact occursIn_texts_sumBy.trans (or_congr Iff.rfl (occursIn_texts_rate hc))
    | sum =>
      exact (occursIn_texts_aggregate .sum).trans (or_congr Iff.rfl (occursIn_texts_rate hc))
    | gauge => exact occursIn_texts_aggregate .sum
  | avg =>
    cases kind with
    | histogram => exact occursIn_texts_sumBy.trans (or_congr Iff.rfl (occursIn_texts_rate hc))
    | sum => exact occursIn_texts_aggregate .avg
    | gauge => exact occursIn_texts_aggregate .avg
  | max => exact occursIn_texts_extreme hc .max kind
  | min => exact occursIn_texts_extreme hc .min kind

end Promql.Expr

namespace Query

variable {c : Char} {q : Query} {text : String} {labels : Label.Table}

/-- **The separators of the PromQL of a query are those of the texts that the query hands on.** -/
theorem mem_render_ofQuery_iff (hc : IsSeparator c) (kind : Metric.Kind) :
    c ∈ (Promql.Expr.ofQuery q kind labels).render.toList ↔
      Text.OccursIn c (q.handedOn labels) := by
  rw [Promql.Expr.mem_render_iff hc, Promql.Expr.occursIn_texts_ofQuery hc,
    occursIn_texts_selectorOf_iff hc, handedOn, Text.occursIn_append, or_comm]

/-! ## Lines -/

/-- No title and no PromQL of the query has a separator that ends it too early: the title ends at a
tab, the PromQL at a line feed. -/
structure OnOneLine (q : Query) (labels : Label.Table) : Prop where
  tab : ¬ Text.OccursIn '\t' q.shownTexts
  title : ¬ Text.OccursIn '\n' q.shownTexts
  promql : ¬ Text.OccursIn '\n' (q.handedOn labels)

instance (q : Query) (labels : Label.Table) : Decidable (q.OnOneLine labels) :=
  decidable_of_iff (¬ Text.OccursIn '\t' q.shownTexts ∧ ¬ Text.OccursIn '\n' q.shownTexts ∧
      ¬ Text.OccursIn '\n' (q.handedOn labels))
    ⟨fun h => ⟨h.1, h.2.1, h.2.2⟩, fun h => ⟨h.tab, h.title, h.promql⟩⟩

theorem onOneLine_iff (h : parse text labels = .ok q) (kind : Metric.Kind) :
    q.OnOneLine labels ↔
      '\t' ∉ q.title.toList ∧ '\n' ∉ q.title.toList ∧
        '\n' ∉ (Promql.Expr.ofQuery q kind labels).render.toList := by
  rw [mem_title_iff Text.isSeparator_tab h, mem_title_iff Text.isSeparator_newline h,
    mem_render_ofQuery_iff Text.isSeparator_newline kind]
  exact ⟨fun h => ⟨h.tab, h.title, h.promql⟩, fun h => ⟨h.1, h.2.1, h.2.2⟩⟩

end Query

end DashQuery

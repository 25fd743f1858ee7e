import DashQuery.Conversion
import DashQuery.Proofs.Lexing

/-!
# The dispatch table

The PromQL of a query is rendered from an expression tree.  Here it is also given by a table: one
text for each aggregation, kind of metric, count mode and for queries with and without grouping, put
together from nothing but the text `s` of the selector and the text `g` of the labels.

* `Query.isGrouped_iff`: a query is grouped exactly if its labels are joined to a non-empty text.
* `selectorOf_render`: the selector is the two labels of the metric and the joined filters.
* `ofQuery_render`: the tree of a query is rendered to the row of the table.
* `ofText_eq_dispatchText`: so is every text that is read as a query, with the filters and labels
  that are found in the text itself.
-/

namespace DashQuery.Promql

/-! ## The table -/

/-- The selector of a metric; `filters` are the joined matchers. -/
def selectorText (metric : String) (kind : Metric.Kind) (filters : String) : String :=
  "\x7botel_metric_name = \"" ++ metric ++ "\", otel_metric_type = \"" ++ kind.name ++ "\"" ++
    (if filters = "" then "" else ", " ++ filters) ++ "\x7d"

/-- The row of a count per second. -/
def countRateText (s g : String) : (grouped : Bool) → String
  | true => "sum by (" ++ g ++ ") (rate(" ++ s ++ "[2m]))"
  | false => "sum(rate(" ++ s ++ "[2m]))"

/-- The row of a count in the window.  The special metric is summed even without grouping. -/
def countTotalText (s g : String) : (special grouped : Bool) → String
  | _, true => "histogram_sum(sum by (" ++ g ++ ") (increase(" ++ s ++ "[2m])))"
  | false, false => "histogram_sum(increase(" ++ s ++ "[2m]))"
  | true, false => "histogram_sum(sum(increase(" ++ s ++ "[2m])))"

/-- The row of a count.  The rate wins; without a modifier only the special metric is counted in
the window. -/
def countText (s g : String) (m : Query.Modifiers) (special grouped : Bool) : String :=
  if m.asRate then countRateText s g grouped
  else if m.asCount || special then countTotalText s g special grouped
  else countRateText s g grouped

/-- The rows of the greatest and the least value. -/
def extremeText (s g agg : String) : Metric.Kind → (grouped : Bool) → String
  | .histogram, true => "histogram_avg(sum by (" ++ g ++ ") (rate(" ++ s ++ "[2m])))"
  | .histogram, false => "histogram_avg(sum(rate(" ++ s ++ "[2m])))"
  | .sum, true => agg ++ " by (" ++ g ++ ") (rate(" ++ s ++ "[2m]))"
  | .sum, false => agg ++ "(rate(" ++ s ++ "[2m]))"
  | .gauge, true => agg ++ " by (" ++ g ++ ") (" ++ s ++ ")"
  | .gauge, false => agg ++ "(" ++ s ++ ")"

/-- The rows of the table; `g` is empty for a query without grouping. -/
def rowText (s g : String) (m : Query.Modifiers) (special : Bool) :
    Query.Aggregation → Metric.Kind → (grouped : Bool) → String
  | .percentile rank, _, true =>
    "histogram_quantile(" ++ Decimal.plainText (Query.Aggregation.quantileOfRank rank) ++
      ", sum by (" ++ g ++ ", le) (rate(" ++ s ++ "[2m])))"
  | .percentile rank, _, false =>
    "histogram_quantile(" ++ Decimal.plainText (Query.Aggregation.quantileOfRank rank) ++
      ", sum(rate(" ++ s ++ "[2m])))"
  | .count, _, grouped => countText s g m special grouped
  | .sum, .histogram, true => "histogram_sum(sum by (" ++ g ++ ") (rate(" ++ s ++ "[2m])))"
  | .sum, .histogram, false => "histogram_sum(rate(" ++ s ++ "[2m]))"
  | .sum, .sum, true => "sum by (" ++ g ++ ") (rate(" ++ s ++ "[2m]))"
  | .sum, .sum, false => "sum(rate(" ++ s ++ "[2m]))"
  | .sum, .gauge, true => "sum by (" ++ g ++ ") (" ++ s ++ ")"
  | .sum, .gauge, false => "sum(" ++ s ++ ")"
  | .avg, .histogram, true => "histogram_avg(sum by (" ++ g ++ ") (rate(" ++ s ++ "[2m])))"
  | .avg, .histogram, false => "histogram_avg(rate(" ++ s ++ "[2m]))"
  | .avg, _, true => "avg by (" ++ g ++ ") (" ++ s ++ ")"
  | .avg, _, false => "avg(" ++ s ++ ")"
  | .max, kind, grouped => extremeText s g "max" kind grouped
  | .min, kind, grouped => extremeText s g "min" kind grouped

/-- The metric whose counts are totals, and summed. -/
def specialMetric : String := "http.server.request.duration"

/-- The PromQL of a query on a metric, from the texts of its filters and of its labels. -/
def dispatchText (a : Query.Aggregation) (metric : String) (kind : Metric.Kind)
    (m : Query.Modifiers) (filters g : String) : String :=
  rowText (selectorText metric kind filters) g m (metric == specialMetric) a kind (g != "")

end DashQuery.Promql

namespace DashQuery.Query

/-- **A query is grouped exactly if its labels are joined to a non-empty text.** -/
theorem isGrouped_iff (q : Query) : q.isGrouped = (Text.join ", " q.groupBy != "") := by
  have hjoin : Text.join ", " q.groupBy = "" ↔ q.groupBy = [] ∨ q.groupBy = [""] :=
    Text.join_eq_empty_iff (by decide)
  rw [Bool.eq_iff_iff, bne_iff_ne, ne_eq, hjoin, isGrouped]
  match q.groupBy with
  | [] => simp
  | [label] => simp
  | _ :: _ :: _ => simp

theorem grouping_of_isGrouped {q : Query} (h : q.isGrouped = true) : q.grouping = q.groupBy := by
  rw [grouping, if_pos h]

theorem grouping_of_not_isGrouped {q : Query} (h : q.isGrouped = false) : q.grouping = [] := by
  simp [grouping, h]

theorem groupBy_ne_nil {q : Query} (h : q.isGrouped = true) : q.groupBy ≠ [] := by
  intro hnil
  simp [isGrouped, hnil] at h

end DashQuery.Query

namespace DashQuery.Promql

variable (q : Query) (kind : Metric.Kind) (labels : Label.Table)

/-! ## Pieces of a rendered expression -/

theorem Matcher.render_ne_empty (m : Matcher) : m.render ≠ "" := by
  simp [Matcher.render]

theorem renderFilters_eq_empty_iff (fs : List Query.Filter) :
    Query.renderFilters fs labels = "" ↔ fs = [] := by
  rw [Query.renderFilters, Text.join_eq_empty_iff (by decide), List.map_eq_nil_iff]
  constructor
  · rintro (h | h)
    · exact h
    · obtain ⟨f, -, hf⟩ := List.mem_map.1 (h ▸ List.mem_singleton_self "")
      exact absurd hf (f.matcher labels).render_ne_empty
  · exact Or.inl

theorem selectorOf_metric : (selectorOf q kind labels).metric = q.metric := rfl

theorem selectorOf_kind : (selectorOf q kind labels).kind = kind := rfl

theorem Selector.render_eq (s : Selector) : s.render =
    "\x7botel_metric_name = \"" ++ s.metric ++ "\", otel_metric_type = \"" ++ s.kind.name ++ "\"" ++
      String.join (s.matchers.map fun m => ", " ++ m.render) ++ "\x7d" := by
  rw [render, metricLabel, kindLabel]
  generalize String.join (s.matchers.map fun m => ", " ++ m.render) = t
  simp [← String.toList_inj]

/-- The matchers in a selector are the filters joined as they are by themselves. -/
theorem join_matchers : String.join ((selectorOf q kind labels).matchers.map
      fun m => ", " ++ m.render) =
    if Query.renderFilters q.filters labels = "" then ""
    else ", " ++ Query.renderFilters q.filters labels := by
  by_cases hnil : q.filters = []
  · rw [if_pos ((renderFilters_eq_empty_iff labels _).2 hnil), selectorOf, hnil]
    rfl
  · rw [if_neg (fun h => hnil ((renderFilters_eq_empty_iff labels _).1 h)), Query.renderFilters,
      ← Text.join_map_append ", " (by simpa using hnil), selectorOf, List.map_map, List.map_map]
    rfl

/-- **The text of a selector.** -/
theorem selectorOf_render : (selectorOf q kind labels).render =
    selectorText q.metric kind (Query.renderFilters q.filters labels) := by
  unfold selectorText
  rw [Selector.render_eq, join_matchers, selectorOf_metric, selectorOf_kind]

namespace Expr

theorem render_call (f : Function) (e : Expr) :
    (call f e).render = f.name ++ "(" ++ e.render ++ ")" := rfl

theorem render_selector (s : Selector) : (selector s).render = s.render := rfl

theorem render_range (s : Selector) (window : String) :
    (range s window).render = s.render ++ "[" ++ window ++ "]" := rfl

theorem render_quantile (x : Float) (e : Expr) : (quantile x e).render =
    "histogram_quantile(" ++ Decimal.plainText x ++ ", " ++ e.render ++ ")" := rfl

theorem render_aggregate_nil (op : Operator) (e : Expr) :
    (aggregate op [] e).render = op.name ++ "(" ++ e.render ++ ")" := rfl

theorem render_aggregate {op : Operator} {grouping : List String} (h : grouping ≠ []) (e : Expr) :
    (aggregate op grouping e).render =
      op.name ++ " by (" ++ Text.join ", " grouping ++ ") (" ++ e.render ++ ")" := by
  cases grouping with
  | nil => exact absurd rfl h
  | cons => rfl

theorem render_rate (s : Selector) : (rate s).render = "rate(" ++ s.render ++ "[2m])" := by
  rw [rate, render_call, render_range]
  simp [Function.name, rateWindow, ← String.toList_inj]

theorem render_increase (s : Selector) :
    (increase s).render = "increase(" ++ s.render ++ "[2m])" := by
  rw [increase, render_call, render_range]
  simp [Function.name, rateWindow, ← String.toList_inj]

end Expr

/-! ## The tree of a query -/

theorem override?_eq (metric : String) :
    override? metric =
      if metric == specialMetric then some ⟨specialMetric, .total, true⟩ else none := by
  rw [override?, overrides, List.find?_singleton, Bool.beq_comm]
  rfl

theorem any_override? (metric : String) :
    (override? metric).any (·.sumUngroupedTotals) = (metric == specialMetric) := by
  rw [override?_eq]
  split <;> simp [*]

/-- The rate wins, and without a modifier only the special metric has a total. -/
theorem countMode_override? (m : Query.Modifiers) (metric : String) :
    countMode m (override? metric) =
      if m.asRate then .rate
      else if m.asCount || metric == specialMetric then .total
      else .rate := by
  unfold countMode
  rw [override?_eq]
  cases metric == specialMetric <;> simp

namespace Expr

variable {q} {kind}

theorem render_aggregate_grouping (op : Operator) (e : Expr) :
    (aggregate op q.grouping e).render =
      if q.isGrouped then op.name ++ " by (" ++ Text.join ", " q.groupBy ++ ") (" ++ e.render ++ ")"
      else op.name ++ "(" ++ e.render ++ ")" := by
  cases hg : q.isGrouped with
  | true =>
    rw [if_pos rfl, Query.grouping_of_isGrouped hg, render_aggregate (Query.groupBy_ne_nil hg)]
  | false => rw [if_neg (by decide), Query.grouping_of_not_isGrouped hg, render_aggregate_nil]

theorem render_sumBy_grouping (e : Expr) :
    (sumBy q.grouping e).render =
      if q.isGrouped then "sum by (" ++ Text.join ", " q.groupBy ++ ") (" ++ e.render ++ ")"
      else e.render := by
  cases hg : q.isGrouped with
  | true =>
    have hne := Query.groupBy_ne_nil hg
    rw [if_pos rfl, Query.grouping_of_isGrouped hg, sumBy, if_neg (by simpa using hne),
      render_aggregate hne]
    simp [Operator.name]
  | false =>
    rw [if_neg (by decide), Query.grouping_of_not_isGrouped hg]
    rfl

theorem render_extreme (op : Operator) (s : Selector) :
    (extreme op q kind s).render =
      extremeText s.render (Text.join ", " q.groupBy) op.name kind q.isGrouped := by
  cases kind with
  | histogram =>
    rw [extreme, render_call, render_aggregate_grouping, render_rate]
    unfold extremeText
    cases q.isGrouped <;> simp [Function.name, Operator.name, ← String.toList_inj]
  | sum =>
    rw [extreme, render_aggregate_grouping, render_rate]
    unfold extremeText
    cases q.isGrouped <;> simp [← String.toList_inj]
  | gauge =>
    rw [extreme, render_aggregate_grouping, render_selector]
    unfold extremeText
    cases q.isGrouped <;> simp

theorem render_total (s : Selector) :
    (total q (override? q.metric) s).render =
      countTotalText s.render (Text.join ", " q.groupBy) (q.metric == specialMetric)
        q.isGrouped := by
  rw [total, any_override?, render_call]
  unfold countTotalText
  cases hg : q.isGrouped with
  | true =>
    rw [Bool.true_or, if_pos rfl, render_aggregate_grouping, hg, if_pos rfl, render_increase]
    simp [Function.name, Operator.name, ← String.toList_inj]
  | false =>
    cases q.metric == specialMetric with
    | true =>
      rw [Bool.or_true, if_pos rfl, render_aggregate_grouping, hg, if_neg (by decide),
        render_increase]
      simp [Function.name, Operator.name, ← String.toList_inj]
    | false =>
      rw [Bool.or_self, if_neg (by decide), render_increase]
      simp [Function.name, ← String.toList_inj]

theorem render_aggregate_sum_rate (s : Selector) :
    (aggregate .sum q.grouping (rate s)).render =
      countRateText s.render (Text.join ", " q.groupBy) q.isGrouped := by
  rw [render_aggregate_grouping, render_rate]
  unfold countRateText
  cases q.isGrouped <;> simp [Operator.name, ← String.toList_inj]

theorem render_quantileGrouping (x : Float) (s : Selector) :
    (quantile x (aggregate .sum (quantileGrouping q) (rate s))).render =
      if q.isGrouped then
        "histogram_quantile(" ++ Decimal.plainText x ++
          ", sum by (" ++ Text.join ", " q.groupBy ++ ", le) (rate(" ++ s.render ++ "[2m])))"
      else
        "histogram_quantile(" ++ Decimal.plainText x ++ ", sum(rate(" ++ s.render ++ "[2m])))" := by
  rw [quantileGrouping, render_quantile]
  cases hg : q.isGrouped with
  | true =>
    rw [if_pos rfl, if_pos rfl, render_aggregate (by simp), render_rate,
      Text.join_append_singleton _ _ (Query.groupBy_ne_nil hg)]
    simp [Operator.name, ← String.toList_inj]
  | false =>
    rw [if_neg (by decide), if_neg (by decide), render_aggregate_nil, render_rate]
    simp [Operator.name, ← String.toList_inj]

end Expr

/-- **The tree of a query is rendered to its row of the table.** -/
theorem ofQuery_render :
    (Expr.ofQuery q kind labels).render =
      rowText (selectorOf q kind labels).render (Text.join ", " q.groupBy) q.modifiers
        (q.metric == specialMetric) q.aggregation kind q.isGrouped := by
  generalize hs : selectorOf q kind labels = s
  unfold Expr.ofQuery rowText
  rw [hs]
  cases ha : q.aggregation with
  | percentile rank =>
    dsimp only
    rw [Expr.render_quantileGrouping]
    cases q.isGrouped <;> rfl
  | count =>
    dsimp only
    rw [countMode_override?]
    unfold countText
    by_cases hrate : q.modifiers.asRate = true
    · rw [if_pos hrate, if_pos hrate]
      exact Expr.render_aggregate_sum_rate s
    · rw [if_neg hrate, if_neg hrate]
      by_cases htotal : (q.modifiers.asCount || q.metric == specialMetric) = true
      · rw [if_pos htotal, if_pos htotal]
        exact Expr.render_total s
      · rw [if_neg htotal, if_neg htotal]
        exact Expr.render_aggregate_sum_rate s
  | sum =>
    cases kind with
    | histogram =>
      dsimp only
      rw [Expr.render_call, Expr.render_sumBy_grouping, Expr.render_rate]
      cases q.isGrouped <;> simp [Function.name, ← String.toList_inj]
    | sum =>
      dsimp only
      rw [Expr.render_aggregate_grouping, Expr.render_rate]
      cases q.isGrouped <;> simp [Operator.name, ← String.toList_inj]
    | gauge =>
      dsimp only
      rw [Expr.render_aggregate_grouping, Expr.render_selector]
      cases q.isGrouped <;> simp [Operator.name]
  | avg =>
    cases kind with
    | histogram =>
      dsimp only
      rw [Expr.render_call, Expr.render_sumBy_grouping, Expr.render_rate]
      cases q.isGrouped <;> simp [Function.name, ← String.toList_inj]
    | sum =>
      dsimp only
      rw [Expr.render_aggregate_grouping, Expr.render_selector]
      cases q.isGrouped <;> simp [Operator.name]
    | gauge =>
      dsimp only
      rw [Expr.render_aggregate_grouping, Expr.render_selector]
      cases q.isGrouped <;> simp [Operator.name]
  | max => exact Expr.render_extreme .max s
  | min => exact Expr.render_extreme .min s

/-- **Every text that is read as a query is converted to its row of the table.**  The row is found
from the text alone: the metric is its head without blanks, the modifiers are those that occur in
it, and the filters and labels are the joined ones that are found in it. -/
theorem ofText_eq_dispatchText {text : String} {labels : Label.Table} {q : Query}
    (rules : Metric.RuleTable) (h : Query.parse text labels = .ok q) :
    ∃ token metric, Query.head? text.toList = some (token, metric) ∧
      q.aggregation.text.toList = token ∧ q.metric = String.ofList (Text.trim metric) ∧
      ofText text rules labels =
        .ok (dispatchText q.aggregation q.metric (rules.classify q.metric)
          (Query.Modifiers.scan text)
          (Query.renderFilters (Query.selectorFilters text) labels)
          (Query.renderGroupLabels text labels)) := by
  obtain ⟨token, metric, hhead, ha, hq⟩ := Query.exists_head?_of_parse h
  obtain ⟨hfilters, hgroup, -, hmodifiers⟩ := Query.scans_of_parse h
  have hmetric : q.metric = String.ofList (Text.trim metric) := by rw [hq]
  have hgroups : Text.join ", " q.groupBy = Query.renderGroupLabels text labels := by
    rw [hgroup, Query.renderGroupLabels]
  refine ⟨token, metric, hhead, Query.Aggregation.text_of_ofToken? ha, hmetric, ?_⟩
  rw [ofText, h]
  dsimp only
  rw [ofQuery_render, selectorOf_render, Query.isGrouped_iff, hgroups, hfilters, hmodifiers]
  rfl

/-- A grouped count without a modifier, on the metric that is counted in the window. -/
theorem ofText_grouped_special_count :
    ∃ q, Query.parse "count:http.server.request.duration\x7bhost:a*\x7d by \x7bhost, \x7d" .empty =
        .ok q ∧
      ofText "count:http.server.request.duration\x7bhost:a*\x7d by \x7bhost, \x7d" ⟨[]⟩ .empty =
        .ok ("histogram_sum(sum by (host, ) (increase(\x7botel_metric_name = " ++
          "\"http.server.request.duration\", otel_metric_type = \"gauge\", " ++
          "host=~\"a.*\"\x7d[2m])))") := by
  have h : Query.parse "count:http.server.request.duration\x7bhost:a*\x7d by \x7bhost, \x7d" .empty =
      .ok ⟨.count, "http.server.request.duration", [⟨"host", "a*", false, true⟩], ["host", ""],
        ["host", ""], ⟨false, false⟩⟩ := rfl
  obtain ⟨_, _, -, -, -, htext⟩ := ofText_eq_dispatchText ⟨[]⟩ h
  exact ⟨_, h, htext.trans (congrArg Except.ok (by decide +kernel))⟩

end DashQuery.Promql

import DashQuery.Promql.OfQuery

/-!
# Types of PromQL expressions

PromQL tells instant vectors, with one value for each series, from range vectors, with a row of
values for each series.  A rate or an increase is taken of a range vector, and everything else is
applied to an instant vector.

* `HasType`: the typing rules, with the one window of range vectors.
* `HasType.countP_isRangeCall`: in a typed expression there is one rate or increase if a range
  vector occurs, and none otherwise.
* `ofQuery_form`: the few forms that the expression of a query can have.
* `ofQuery_hasRange`: for which queries a range vector is read.
* `ofQuery_wellTyped`: the expression of every query has a type, with at most one aggregation and
  with a quantile at the root of percentiles only.
-/

namespace DashQuery.Promql

/-- What an expression evaluates to. -/
inductive VectorType where
  | instant
  | range
  deriving DecidableEq, Repr

namespace Expr

variable {e arg : Expr} {f : Function} {t : VectorType}

/-! ## Typing -/

/-- The typing rules.  Range vectors have the window of rates, and nothing but the argument of a
function that takes them is a range vector. -/
inductive HasType : Expr → VectorType → Prop where
  | selector (s : Selector) : HasType (selector s) .instant
  | range (s : Selector) : HasType (range s rateWindow) .range
  | callRange {f : Function} {arg : Expr} :
      f.takesRange = true → HasType arg .range → HasType (call f arg) .instant
  | callInstant {f : Function} {arg : Expr} :
      f.takesRange = false → HasType arg .instant → HasType (call f arg) .instant
  | aggregate {arg : Expr} (op : Operator) (labels : List String) :
      HasType arg .instant → HasType (aggregate op labels arg) .instant
  | quantile {arg : Expr} (q : Float) : HasType arg .instant → HasType (quantile q arg) .instant

/-- The expression and all expressions inside it, from the outside in. -/
def nodes : Expr → List Expr
  | selector s => [selector s]
  | range s window => [range s window]
  | call f arg => call f arg :: arg.nodes
  | aggregate op labels arg => aggregate op labels arg :: arg.nodes
  | quantile q arg => quantile q arg :: arg.nodes

/-- Whether the root is a function of range vectors. -/
def isRangeCall : Expr → Bool
  | call f _ => f.takesRange
  | _ => false

/-- Whether the root is an aggregation. -/
def isAggregate : Expr → Bool
  | aggregate _ _ _ => true
  | _ => false

/-- Whether the root is a quantile. -/
def isQuantile : Expr → Bool
  | quantile _ _ => true
  | _ => false

theorem takesRange_iff : f.takesRange = true ↔ f = .rate ∨ f = .increase := by
  cases f <;> decide

/-- **The range vectors are the bare ones with the window of rates.** -/
theorem hasType_range_iff : HasType e .range ↔ ∃ s, e = range s rateWindow := by
  constructor
  · intro h
    cases h with
    | range s => exact ⟨s, rfl⟩
  · rintro ⟨s, rfl⟩
    exact .range s

/-- In a typed expression a range vector occurs below a rate or an increase, and never alone. -/
theorem HasType.hasRange_eq (h : HasType e .instant) :
    e.hasRange = (e.uses .rate || e.uses .increase) := by
  generalize ht : VectorType.instant = t at h
  induction h with
  | selector s => rfl
  | range s => cases ht
  | callRange hf harg =>
    obtain ⟨s, rfl⟩ := hasType_range_iff.1 harg
    rcases takesRange_iff.1 hf with rfl | rfl <;> rfl
  | @callInstant f arg hf harg ih =>
    have hname : (f == .rate) = false ∧ (f == .increase) = false := by
      cases f <;> first | exact absurd hf (by decide) | decide
    rw [hasRange, uses, uses, hname.1, hname.2, ih rfl, Bool.false_or, Bool.false_or]
  | aggregate op labels harg ih => exact ih rfl
  | quantile q harg ih => exact ih rfl

/-- **A typed expression has one rate or increase if a range vector occurs in it, otherwise
none.**  The argument of the first one is bare, so there is no room for a second one. -/
theorem HasType.countP_isRangeCall (h : HasType e .instant) :
    e.nodes.countP isRangeCall = if e.hasRange then 1 else 0 := by
  generalize ht : VectorType.instant = t at h
  induction h with
  | selector s => rfl
  | range s => cases ht
  | @callRange f arg hf harg =>
    obtain ⟨s, rfl⟩ := hasType_range_iff.1 harg
    have hroot : isRangeCall (call f (Expr.range s rateWindow)) = true := hf
    rw [nodes, List.countP_cons_of_pos hroot]
    rfl
  | callInstant hf harg ih =>
    rw [nodes, List.countP_cons_of_neg (by simp [isRangeCall, hf]), ih rfl, hasRange]
  | aggregate op labels harg ih =>
    rw [nodes, List.countP_cons_of_neg (by simp [isRangeCall]), ih rfl, hasRange]
  | quantile q harg ih =>
    rw [nodes, List.countP_cons_of_neg (by simp [isRangeCall]), ih rfl, hasRange]

/-! ## The forms of a query's expression -/

/-- What is read of the selected series before anything is applied to it. -/
inductive IsReading : Expr → Prop where
  | selector (s : Selector) : IsReading (selector s)
  | rate (s : Selector) : IsReading (rate s)
  | increase (s : Selector) : IsReading (increase s)

/-- A reading, or its aggregation. -/
inductive IsAggregated : Expr → Prop where
  | bare {v : Expr} : IsReading v → IsAggregated v
  | aggregate {v : Expr} (op : Operator) (labels : List String) :
      IsReading v → IsAggregated (aggregate op labels v)

/-- The forms of the expression of a query: the aggregated readings, a function of instant vectors
applied to one, or the quantile of a sum of rates that keeps the buckets apart. -/
inductive Form (q : Query) : Expr → Prop where
  | plain {v : Expr} : q.aggregation.quantile? = none → IsAggregated v → Form q v
  | call {v : Expr} (f : Function) :
      q.aggregation.quantile? = none → f.takesRange = false → IsAggregated v → Form q (call f v)
  | quantile (rank : String) (s : Selector) :
      q.aggregation = .percentile rank →
      Form q (quantile (Query.Aggregation.quantileOfRank rank)
        (.aggregate .sum (quantileGrouping q) (.rate s)))

theorem isAggregated_sumBy {v : Expr} (labels : List String) (h : IsReading v) :
    IsAggregated (sumBy labels v) := by
  unfold sumBy
  split
  · exact .bare h
  · exact .aggregate .sum labels h

variable (q : Query) (kind : Metric.Kind) (labels : Label.Table)

theorem total_form (special? : Option Override) (s : Selector) (h : q.aggregation = .count) :
    Form q (total q special? s) := by
  unfold total
  refine .call .histogramSum (by rw [h]; rfl) rfl ?_
  split
  · exact .aggregate .sum q.grouping (.increase s)
  · exact .bare (.increase s)

theorem extreme_form (op : Operator) (s : Selector) (h : q.aggregation.quantile? = none) :
    Form q (extreme op q kind s) := by
  cases kind with
  | histogram => exact .call .histogramAvg h rfl (.aggregate .sum q.grouping (.rate s))
  | sum => exact .plain h (.aggregate op q.grouping (.rate s))
  | gauge => exact .plain h (.aggregate op q.grouping (.selector s))

/-- **The expression of every query has one of the forms.** -/
theorem ofQuery_form : Form q (ofQuery q kind labels) := by
  unfold ofQuery
  generalize selectorOf q kind labels = s
  cases ha : q.aggregation with
  | percentile rank => exact .quantile rank s ha
  | count =>
    dsimp only
    split
    · exact .plain (by rw [ha]; rfl) (.aggregate .sum q.grouping (.rate s))
    · exact total_form q _ s ha
  | sum =>
    have hq : q.aggregation.quantile? = none := by rw [ha]; rfl
    cases kind with
    | histogram => exact .call .histogramSum hq rfl (isAggregated_sumBy _ (.rate s))
    | sum => exact .plain hq (.aggregate .sum q.grouping (.rate s))
    | gauge => exact .plain hq (.aggregate .sum q.grouping (.selector s))
  | avg =>
    have hq : q.aggregation.quantile? = none := by rw [ha]; rfl
    cases kind with
    | histogram => exact .call .histogramAvg hq rfl (isAggregated_sumBy _ (.rate s))
    | sum => exact .plain hq (.aggregate .avg q.grouping (.selector s))
    | gauge => exact .plain hq (.aggregate .avg q.grouping (.selector s))
  | max => exact extreme_form q kind .max s (by rw [ha]; rfl)
  | min => exact extreme_form q kind .min s (by rw [ha]; rfl)

variable {q} {v : Expr}

theorem IsReading.hasType (h : IsReading v) : HasType v .instant := by
  cases h with
  | selector s => exact .selector s
  | rate s => exact .callRange rfl (.range s)
  | increase s => exact .callRange rfl (.range s)

theorem IsAggregated.hasType (h : IsAggregated v) : HasType v .instant := by
  cases h with
  | bare hv => exact hv.hasType
  | aggregate op labels hv => exact .aggregate op labels hv.hasType

theorem Form.hasType (h : Form q e) : HasType e .instant := by
  cases h with
  | plain _ hv => exact hv.hasType
  | call f _ hf hv => exact .callInstant hf hv.hasType
  | quantile rank s _ => exact .quantile _ (.aggregate .sum _ (IsReading.rate s).hasType)

/-- A reading has neither an aggregation nor a quantile in it. -/
theorem IsReading.node (h : IsReading v) :
    ∀ x ∈ v.nodes, x.isAggregate = false ∧ x.isQuantile = false := by
  cases h <;> simp [nodes, Expr.rate, Expr.increase, isAggregate, isQuantile]

theorem IsReading.countP_isAggregate (h : IsReading v) : v.nodes.countP isAggregate = 0 := by
  rw [List.countP_eq_zero]
  intro x hx
  simp [(h.node x hx).1]

theorem IsAggregated.countP_isAggregate_le (h : IsAggregated v) :
    v.nodes.countP isAggregate ≤ 1 := by
  cases h with
  | bare hv => rw [hv.countP_isAggregate]; exact Nat.zero_le 1
  | aggregate op labels hv =>
    have hnone := hv.countP_isAggregate
    rw [nodes, List.countP_cons_of_pos rfl]
    omega

theorem Form.countP_isAggregate_le (h : Form q e) : e.nodes.countP isAggregate ≤ 1 := by
  cases h with
  | plain _ hv => exact hv.countP_isAggregate_le
  | call f _ _ hv =>
    rw [nodes, List.countP_cons_of_neg (by simp [isAggregate])]
    exact hv.countP_isAggregate_le
  | quantile rank s _ =>
    rw [nodes, List.countP_cons_of_neg (by simp [isAggregate])]
    exact (IsAggregated.aggregate .sum (quantileGrouping q) (.rate s)).countP_isAggregate_le

theorem IsAggregated.isQuantile_eq_false (h : IsAggregated v) :
    ∀ x ∈ v.nodes, x.isQuantile = false := by
  cases h with
  | bare hv => exact fun x hx => (hv.node x hx).2
  | aggregate op labels hv =>
    rw [nodes, List.forall_mem_cons]
    exact ⟨rfl, fun x hx => (hv.node x hx).2⟩

/-- A quantile stands at the root or nowhere. -/
theorem Form.isQuantile_tail (h : Form q e) : ∀ x ∈ e.nodes.tail, x.isQuantile = false := by
  cases h with
  | plain _ hv => exact fun x hx => hv.isQuantile_eq_false x (List.mem_of_mem_tail hx)
  | call f _ _ hv => exact hv.isQuantile_eq_false
  | quantile rank s _ =>
    exact (IsAggregated.aggregate .sum (quantileGrouping q) (.rate s)).isQuantile_eq_false

/-- The quantile belongs to the percentiles. -/
theorem Form.isQuantile_iff (h : Form q e) :
    e.isQuantile = true ↔ ∃ rank, q.aggregation = .percentile rank := by
  have hnone : q.aggregation.quantile? = none → ¬ ∃ rank, q.aggregation = .percentile rank := by
    rintro hq ⟨rank, ha⟩
    rw [ha] at hq
    cases hq
  cases h with
  | plain hq hv =>
    have hroot : e.isQuantile = false := by
      cases hv with
      | bare hv => cases hv <;> rfl
      | aggregate op labels hv => rfl
    simp [hroot, hnone hq]
  | call f hq _ _ => simp [isQuantile, hnone hq]
  | quantile rank s ha => simp [isQuantile, ha]

/-- A quantile is taken of a sum in which the buckets are kept apart. -/
theorem Form.exists_sum {x : Float} (h : Form q (Expr.quantile x arg)) :
    ∃ inner, arg =
      Expr.aggregate .sum (if q.isGrouped then q.grouping ++ ["le"] else []) inner := by
  cases h with
  | plain _ hv =>
    cases hv with
    | bare hv => cases hv
  | quantile rank s _ =>
    refine ⟨Expr.rate s, ?_⟩
    rw [quantileGrouping, Query.grouping]
    split <;> rfl

/-! ## Which queries read a range vector -/

theorem hasRange_sumBy (labels : List String) (v : Expr) :
    (sumBy labels v).hasRange = v.hasRange := by
  unfold sumBy
  split <;> rfl

theorem hasRange_total (special? : Option Override) (s : Selector) :
    (total q special? s).hasRange = true := by
  unfold total
  rw [hasRange]
  split <;> rfl

theorem hasRange_extreme (op : Operator) (s : Selector) :
    (extreme op q kind s).hasRange = false ↔ kind = .gauge := by
  cases kind <;> simp [extreme, hasRange, rate]

/-- **The queries that read instant vectors only:** means of what is no histogram, and sums and
extremes of gauges. -/
theorem ofQuery_hasRange :
    (ofQuery q kind labels).hasRange = false ↔
      (q.aggregation = .avg ∧ kind ≠ .histogram) ∨
        ((q.aggregation = .sum ∨ q.aggregation = .max ∨ q.aggregation = .min) ∧
          kind = .gauge) := by
  unfold ofQuery
  generalize selectorOf q kind labels = s
  cases ha : q.aggregation with
  | percentile rank => simp [hasRange, rate]
  | count =>
    dsimp only
    split
    · simp [hasRange, rate]
    · simp [hasRange_total]
  | sum => cases kind <;> simp [hasRange, hasRange_sumBy, rate]
  | avg => cases kind <;> simp [hasRange, hasRange_sumBy, rate]
  | max => simp [hasRange_extreme]
  | min => simp [hasRange_extreme]

/-! ## The expression of a query -/

/-- **The expression of every query is well typed.**  A range vector stands only, and always, below
a rate or an increase, of which there is at most one, and everything else is applied to instant
vectors.  There is at most one aggregation.  A quantile stands at the root of percentiles and
nowhere else, over a sum by the labels of the query and the bucket. -/
theorem ofQuery_wellTyped (q : Query) (kind : Metric.Kind) (labels : Label.Table) :
    let e := ofQuery q kind labels
    HasType e .instant ∧
      e.nodes.countP isRangeCall ≤ 1 ∧
      e.nodes.countP isAggregate ≤ 1 ∧
      (∀ x ∈ e.nodes.tail, x.isQuantile = false) ∧
      (e.isQuantile = true ↔ ∃ rank, q.aggregation = .percentile rank) ∧
      (∀ x arg, e = quantile x arg →
        ∃ inner, arg = aggregate .sum (if q.isGrouped then q.grouping ++ ["le"] else []) inner) ∧
      (e.hasRange = false ↔
        (q.aggregation = .avg ∧ kind ≠ .histogram) ∨
          ((q.aggregation = .sum ∨ q.aggregation = .max ∨ q.aggregation = .min) ∧
            kind = .gauge)) ∧
      e.hasRange = (e.uses .rate || e.uses .increase) := by
  intro e
  have hform : Form q e := ofQuery_form q kind labels
  refine ⟨hform.hasType, ?_, hform.countP_isAggregate_le, hform.isQuantile_tail,
    hform.isQuantile_iff, ?_, ofQuery_hasRange kind labels, hform.hasType.hasRange_eq⟩
  · rw [hform.hasType.countP_isRangeCall]
    split <;> decide
  · intro x arg he
    exact (he ▸ hform).exists_sum

end Expr

end DashQuery.Promql

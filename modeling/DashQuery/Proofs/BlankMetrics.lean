import DashQuery.Proofs.Grammar
import DashQuery.Proofs.Quoting

/-!
# Queries without a metric

The head of a query asks for a text between the colon and the first brace.  It asks before the
blanks are trimmed from that text, so blanks are enough for it, and nothing is left of them.

* `HasBlankHead`: the texts with blanks in the place of the metric.
* `HasBlankHead.isHead`: they have the head of a query all the same.
* `metric_eq_empty_iff`: they are the queries without a metric, and the only ones whose selector
  asks for the empty name.
-/

namespace DashQuery.Query

variable {cs token gap back rest : List Char}

/-- The text begins with the name of an aggregation and a colon, and behind them there is nothing
but blanks, one at least, up to the first opening brace or to its end. -/
structure HasBlankHead (cs token gap back : List Char) : Prop where
  text : cs = token ++ ':' :: (gap ++ back)
  token : IsAggregationName token
  gap_ne : gap ≠ []
  gap_blank : gap.all Text.isBlank = true
  ends : back = [] ∨ back.head? = some '{'

namespace HasBlankHead

/-- An opening brace is no blank. -/
theorem brace_not_mem (h : HasBlankHead cs token gap back) : '{' ∉ gap := by
  intro hmem
  have hblank := List.all_eq_true.1 h.gap_blank '{' hmem
  exact absurd hblank (by decide)

/-- The blanks are all that stands in front of the first brace. -/
theorem before_eq (h : HasBlankHead cs token gap back) : Text.before '{' (gap ++ back) = gap := by
  rcases h.ends with rfl | hbrace
  · rw [List.append_nil, Text.before_eq_self h.brace_not_mem]
  · obtain ⟨rest, rfl⟩ := List.head?_eq_some_iff.1 hbrace
    exact Text.before_append_cons h.brace_not_mem

/-- Blanks are taken for a metric. -/
theorem isHead (h : HasBlankHead cs token gap back) : IsHead cs token (gap ++ back) := by
  obtain ⟨hne, hhead⟩ := before_ne_nil_iff.1 (h.before_eq ▸ h.gap_ne)
  exact ⟨h.text, h.token, hne, hhead⟩

end HasBlankHead

/-- Nothing is left of the metric exactly if it was blank. -/
theorem IsHead.trim_before_eq_nil_iff (h : IsHead cs token rest) :
    Text.trim (Text.before '{' rest) = [] ↔ ∃ token gap back, HasBlankHead cs token gap back := by
  constructor
  · intro hnil
    obtain ⟨back, hrest, hends⟩ := Text.exists_eq_before_append '{' rest
    have hne : Text.before '{' rest ≠ [] := before_ne_nil_iff.2 ⟨h.rest_ne, h.rest_head⟩
    exact ⟨token, _, back, hrest ▸ h.text, h.token, hne, Text.trim_eq_nil_iff.1 hnil, hends⟩
  · rintro ⟨token', gap, back, hblank⟩
    -- both readings of the text have the head that is found in it
    have hfound := head?_eq_some_iff.2 ⟨rest, h, rfl⟩
    rw [head?_eq_some_iff.2 ⟨_, hblank.isHead, rfl⟩] at hfound
    obtain ⟨-, hbefore⟩ := Prod.mk.inj (Option.some.inj hfound)
    rw [← hbefore, hblank.before_eq, Text.trim_eq_nil_iff]
    exact hblank.gap_blank

/-- **The queries that name no metric.**  Every text with blanks in the place of its metric is a
query, with every table.  Exactly for such texts the metric of the query is empty, and exactly for
them, whatever the rules, the selector of the emitted expression asks for the empty name. -/
theorem metric_eq_empty_iff (text : String) (labels : Label.Table) :
    ((∃ token gap back, HasBlankHead text.toList token gap back) →
        ∃ q, parse text labels = .ok q) ∧
      ∀ q, parse text labels = .ok q →
        (q.metric = "" ↔ ∃ token gap back, HasBlankHead text.toList token gap back) ∧
        ∀ rules : Metric.RuleTable,
          Promql.ofText text rules labels =
              .ok (Promql.Expr.ofQuery q (rules.classify q.metric) labels).render ∧
            ((Promql.Expr.ofQuery q (rules.classify q.metric) labels).leaf.metric = "" ↔
              ∃ token gap back, HasBlankHead text.toList token gap back) := by
  constructor
  · rintro ⟨token, gap, back, h⟩
    obtain ⟨q, hq, -, -⟩ := parse_of_isHead labels h.isHead
    exact ⟨q, hq⟩
  · intro q hparse
    have hempty : q.metric = "" ↔
        ∃ token gap back, HasBlankHead text.toList token gap back := by
      obtain ⟨token, metric, hhead, -, hq⟩ := exists_head?_of_parse hparse
      have hmetric : q.metric = String.ofList (Text.trim metric) := by rw [hq]
      obtain ⟨rest, hrest, rfl⟩ := head?_eq_some_iff.1 hhead
      rw [hmetric, ← hrest.trim_before_eq_nil_iff, ← String.toList_inj, String.toList_ofList]
      rfl
    refine ⟨hempty, fun rules => ⟨?_, ?_⟩⟩
    · rw [Promql.ofText, hparse]
    · rw [Promql.Expr.leaf_ofQuery]
      exact hempty

/-- One blank between the colon and the brace is read as a metric, and the selector asks for the
empty name. -/
theorem blank_metric_converted :
    (∃ q, parse "count: \x7b\x7d" .empty = .ok q ∧ q.metric = "") ∧
      Promql.ofText "count: \x7b\x7d" ⟨[]⟩ .empty =
        .ok "sum(rate(\x7botel_metric_name = \"\", otel_metric_type = \"gauge\"\x7d[2m]))" :=
  ⟨⟨_, rfl, by decide⟩, by decide⟩

end DashQuery.Query

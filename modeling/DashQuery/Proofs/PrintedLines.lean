import Mathlib.Data.List.Forall2
import DashQuery.Proofs.Outcomes
import DashQuery.Proofs.Separators

/-!
# The lines that converting prints

Converting prints a line for every conversion: the title, a tab and the PromQL.  Both are printed as
they are, so the lines can be taken apart again only if no title holds a tab and nothing printed
holds a line feed of its own.

* `Text.lines_join`: lines without line feeds are found again in what is printed.
* `forall₂_isLineOf_iff`: when the printed conversions are read back line by line.
* `readsBack_convert_iff`: the same by the queries that are converted.
* `filter_value_printed_on_two_lines`: a query that is printed on two lines.
-/

namespace DashQuery

namespace Text

/-- The lines of a text in which every line ends with a line feed. -/
def lines (out : String) : List String := (pieces '\n' out).dropLast

theorem pieces_append_newline {line out : String} (h : '\n' ∉ line.toList) :
    pieces '\n' (line ++ "\n" ++ out) = line :: pieces '\n' out := by
  have htext : (line ++ "\n" ++ out).toList = line.toList ++ '\n' :: out.toList := by simp
  rw [pieces, htext, List.splitOn_append_cons_self, List.splitOn_eq_singleton h, pieces,
    List.singleton_append, List.map_cons, String.ofList_toList]

/-- **Lines are found again if no line feed stands inside one of them.** -/
theorem lines_join {rows : List String} (h : ∀ row ∈ rows, '\n' ∉ row.toList) :
    lines (String.join (rows.map (· ++ "\n"))) = rows := by
  induction rows with
  | nil => rfl
  | cons row rows ih =>
    rw [List.forall_mem_cons] at h
    rw [lines, List.map_cons, String.join_cons, pieces_append_newline h.1,
      List.dropLast_cons_of_ne_nil (pieces_ne_nil _ _)]
    exact congrArg _ (ih h.2)

/-- No line feed stands inside a line. -/
theorem newline_not_mem_of_mem_lines {out line : String} (h : line ∈ lines out) :
    '\n' ∉ line.toList :=
  not_mem_of_mem_pieces ((List.dropLast_sublist _).subset h)

end Text

namespace Command

variable {settings : Settings} {queries : List String} {table : Metric.RuleTable} {line : String}
  {r : Converted} {rs : List Converted}

/-- The line, cut at its first tab, gives the title and the PromQL of the conversion. -/
def IsLineOf (line : String) (r : Converted) : Prop :=
  Text.cut? '\t' line.toList = some (r.title.toList, r.promql.toList)

theorem isLineOf_iff : IsLineOf line r ↔ '\t' ∉ r.title.toList ∧ line = convertedLine r := by
  rw [IsLineOf, Text.cut?_eq_some_iff, convertedLine, ← String.toList_inj]
  simp

/-- **Conversions are read back from their lines** exactly if no title holds a tab and neither
titles nor PromQL hold a line feed. -/
theorem forall₂_isLineOf_iff :
    List.Forall₂ IsLineOf (Text.lines (String.join (rs.map (convertedLine · ++ "\n")))) rs ↔
      ∀ r ∈ rs, '\t' ∉ r.title.toList ∧ '\n' ∉ r.title.toList ∧ '\n' ∉ r.promql.toList := by
  have hline : ∀ r : Converted, '\n' ∉ (convertedLine r).toList ↔
      '\n' ∉ r.title.toList ∧ '\n' ∉ r.promql.toList := by
    intro r
    simp [convertedLine]
  have hrows : rs.map (convertedLine · ++ "\n") = (rs.map convertedLine).map (· ++ "\n") := by
    rw [List.map_map]
    rfl
  rw [hrows]
  constructor
  · intro h
    -- the lines read back are those that were printed, so none of them holds a line feed
    have hlines : Text.lines (String.join ((rs.map convertedLine).map (· ++ "\n"))) =
        rs.map convertedLine := by
      rw [← List.forall₂_eq_eq_eq, List.forall₂_map_right_iff]
      exact h.imp fun _ _ hr => (isLineOf_iff.1 hr).2
    rw [hlines, List.forall₂_map_left_iff, List.forall₂_same] at h
    intro r hr
    have hmem : convertedLine r ∈ rs.map convertedLine := List.mem_map_of_mem hr
    rw [← hlines] at hmem
    exact ⟨(isLineOf_iff.1 (h r hr)).1, (hline r).1 (Text.newline_not_mem_of_mem_lines hmem)⟩
  · intro h
    have hnewline : ∀ row ∈ rs.map convertedLine, '\n' ∉ row.toList := by
      rw [List.forall_mem_map]
      exact fun r hr => (hline r).2 (h r hr).2
    rw [Text.lines_join hnewline, List.forall₂_map_left_iff, List.forall₂_same]
    exact fun r hr => isLineOf_iff.2 ⟨(h r hr).1, rfl⟩

/-- The conversions that are printed, query by query. -/
theorem forall_mem_filterMap_convert?_iff {c : Converter} {P : Converted → Prop} :
    (∀ r ∈ queries.filterMap c.convert?, P r) ↔
      ∀ text ∈ queries, ∀ q, Query.parse text c.labels = .ok q → P (c.convertQuery text q).1 := by
  have hconvert : ∀ text r, c.convert? text = some r ↔
      ∃ q, Query.parse text c.labels = .ok q ∧ (c.convertQuery text q).1 = r := by
    intro text r
    rw [Converter.convert?, Converter.convert]
    cases Query.parse text c.labels with
    | error e => simp [Except.toOption]
    | ok q => simp [Except.toOption]
  simp only [List.mem_filterMap, hconvert]
  constructor
  · intro h text htext q hq
    exact h _ ⟨text, htext, q, hq, rfl⟩
  · rintro h r ⟨text, htext, q, hq, rfl⟩
    exact h text htext q hq

/-- **When what converting prints can be read back.**  With rules that compile and a query among the
texts converting succeeds, and then its output has one line for every query in order, each of which
gives the title and the PromQL when it is cut at its first tab, exactly if every query stays on one
line: no attribute shown in its title holds a tab or a line feed, and neither its metric nor the
labels and values of its filters nor the labels that it groups by hold a line feed. -/
theorem readsBack_convert_iff (hrules : Metric.RuleTable.compile settings.rules = .ok table)
    (hquery : ∃ text ∈ queries, ∃ q, Query.parse text settings.labels = .ok q) :
    (convert settings queries false).exitCode = 0 ∧
      (List.Forall₂ IsLineOf (Text.lines (convert settings queries false).stdout)
          (queries.filterMap (Converter.convert? ⟨table, settings.labels⟩)) ↔
        ∀ text ∈ queries, ∀ q, Query.parse text settings.labels = .ok q →
          q.OnOneLine settings.labels) := by
  have hzero : (convert settings queries false).exitCode = 0 := by
    refine Classical.byContradiction fun hne => ?_
    rcases exitCode_convert_ne_zero_iff.1 hne with ⟨e, he⟩ | hnone
    · rw [hrules] at he
      cases he
    · exact hnone hquery
  have hstdout := (converts_of_exitCode_eq_zero hrules hzero).printsLines rfl
  refine ⟨hzero, ?_⟩
  rw [hstdout]
  refine forall₂_isLineOf_iff.trans (forall_mem_filterMap_convert?_iff.trans ?_)
  refine forall₂_congr fun text _ => forall₂_congr fun q hq => ?_
  exact (Query.onOneLine_iff hq _).symm

/-- A query with a blank in a value and two attributes stays on its line. -/
theorem readsBack_convert_blank_value :
    ∃ queries, queries = ["max:m\x7bteam:a b\x7d by \x7bhost, pod.name\x7d", "no query"] ∧
      (convert ⟨[], .empty⟩ queries false).exitCode = 0 ∧
      List.Forall₂ IsLineOf (Text.lines (convert ⟨[], .empty⟩ queries false).stdout)
        (queries.filterMap (Converter.convert? ⟨⟨[]⟩, .empty⟩)) := by
  have hq : ∃ q, Query.parse "max:m\x7bteam:a b\x7d by \x7bhost, pod.name\x7d" .empty = .ok q ∧
      q.OnOneLine .empty :=
    ⟨_, rfl, by decide⟩
  obtain ⟨q, hq, hline⟩ := hq
  have hrules : Metric.RuleTable.compile (Settings.mk [] .empty).rules = .ok ⟨[]⟩ := rfl
  obtain ⟨hzero, hback⟩ := readsBack_convert_iff hrules
    ⟨_, List.mem_cons_self (l := ["no query"]), q, hq⟩
  refine ⟨_, rfl, hzero, hback.2 fun text htext q' hq' => ?_⟩
  simp only [List.mem_cons, List.not_mem_nil, or_false] at htext
  rcases htext with rfl | rfl
  · cases hq.symm.trans hq'
    exact hline
  · cases hq'

/-- A line feed in the value of a filter breaks the line of its query in two. -/
theorem filter_value_printed_on_two_lines :
    ∃ queries, queries = ["count:m\x7bteam:a\nb\x7d"] ∧
      (convert ⟨[], .empty⟩ queries false).exitCode = 0 ∧
      (queries.filterMap (Converter.convert? ⟨⟨[]⟩, .empty⟩)).length = 1 ∧
      (Text.lines (convert ⟨[], .empty⟩ queries false).stdout).length = 2 ∧
      ¬ List.Forall₂ IsLineOf (Text.lines (convert ⟨[], .empty⟩ queries false).stdout)
        (queries.filterMap (Converter.convert? ⟨⟨[]⟩, .empty⟩)) := by
  have hlines : (Text.lines
      (convert ⟨[], .empty⟩ ["count:m\x7bteam:a\nb\x7d"] false).stdout).length = 2 := by
    decide +kernel
  have hone : (["count:m\x7bteam:a\nb\x7d"].filterMap
      (Converter.convert? ⟨⟨[]⟩, .empty⟩)).length = 1 := by
    decide +kernel
  refine ⟨_, rfl, by decide +kernel, hone, hlines, fun h => ?_⟩
  have hlength := h.length_eq
  rw [hlines, hone] at hlength
  exact absurd hlength (by decide)

end Command

end DashQuery

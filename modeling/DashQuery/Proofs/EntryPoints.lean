import DashQuery.Conversion
import DashQuery.Proofs.Grammar

/-!
# One text, three entry points

A text can be converted with its title, turned into PromQL alone, or only given a title.  Each of
the three reads the text by itself, the last one even with an empty label table.  They agree because
a label table has a part in nothing but the grouping, and because no title of a query is the one
that is kept for texts that are no queries.

* `parse_eq_map_parse`: what a label table has a part in.
* `head?_title`: the letters that titles begin with.
* `entries_of_parse_error`, `entries_of_parse_ok`: what the three make of a text.
* `convert_agrees`: which texts succeed, with what, and how the others fail.
-/

namespace DashQuery

namespace Query

/-! ## Tables -/

/-- **A label table renames the grouping of a query and changes nothing else**: neither whether a
text is a query nor any other part of it. -/
theorem parse_eq_map_parse (text : String) (labels other : Label.Table) :
    parse text labels =
      (parse text other).map fun q => { q with groupBy := groupLabels text labels } := by
  cases hhead : head? text.toList with
  | none => simp [parse, hhead, Except.map]
  | some found =>
    obtain ⟨a, ha⟩ := exists_ofToken?_of_head? hhead
    rw [parse_eq_ok labels hhead ha, parse_eq_ok other hhead ha]
    rfl

/-- Titles are made without a label table. -/
theorem map_title_parse (text : String) (labels other : Label.Table) :
    (parse text labels).map title = (parse text other).map title := by
  rw [parse_eq_map_parse text labels other]
  cases parse text other with
  | error e => rfl
  | ok q => rfl

/-! ## Titles -/

/-- The letters that titles begin with. -/
def titleLetters : List Char := ['A', 'B', 'M', 'P', 'S', 'T']

theorem Aggregation.head?_title (a : Aggregation) :
    ∃ c ∈ titleLetters, a.title.toList.head? = some c := by
  cases a with
  | percentile rank =>
    have htext : (Aggregation.percentile rank).text.toList = 'p' :: rank.toList := by
      simp [Aggregation.text]
    have htitle : (Aggregation.percentile rank).title =
        String.ofList (Text.capitalize (Aggregation.percentile rank).text.toList) := rfl
    refine ⟨'P', by decide, ?_⟩
    rw [htitle, htext, String.toList_ofList]
    rfl
  | count => exact ⟨'T', by decide, by decide⟩
  | avg => exact ⟨'A', by decide, by decide⟩
  | sum => exact ⟨'S', by decide, by decide⟩
  | max => exact ⟨'M', by decide, by decide⟩
  | min => exact ⟨'M', by decide, by decide⟩

/-- **The letter that a title begins with.**  Only a title without a by clause depends on the
aggregation; all others begin with `By `. -/
theorem head?_title (q : Query) : ∃ c ∈ titleLetters, q.title.toList.head? = some c := by
  have hby : ∀ rest, ∃ c ∈ titleLetters, ("By " ++ rest).toList.head? = some c := by
    intro rest
    exact ⟨'B', by decide, by simp⟩
  unfold title
  split
  · exact q.aggregation.head?_title
  · exact hby _
  · exact hby _

theorem title_ne_empty (q : Query) : q.title ≠ "" := by
  intro hempty
  obtain ⟨c, -, hhead⟩ := q.head?_title
  rw [hempty] at hhead
  cases hhead

/-- **No title of a query is that of a text that is none.** -/
theorem title_ne_fallbackTitle (q : Query) : q.title ≠ fallbackTitle := by
  intro hfallback
  obtain ⟨c, hc, hhead⟩ := q.head?_title
  have hq : fallbackTitle.toList.head? = some 'Q' := by decide
  rw [hfallback, hq] at hhead
  cases hhead
  exact absurd hc (by decide)

end Query

namespace Converter

variable {c : Converter} {text : String}

/-! ## What becomes of a text -/

/-- A text that is no query fails everywhere, with the same error, and has the title kept for it. -/
theorem entries_of_parse_error {e : Query.Unparseable} (h : Query.parse text c.labels = .error e) :
    c.convert text = .error e ∧ Promql.ofText text c.rules c.labels = .error e ∧
      Query.titleOfText text = Query.fallbackTitle := by
  have hempty : Query.parse text .empty = .error e := by
    rw [Query.parse_eq_map_parse text .empty c.labels, h]
    rfl
  refine ⟨?_, ?_, ?_⟩
  · rw [convert, h]
  · rw [Promql.ofText, h]
  · rw [Query.titleOfText, hempty]

/-- A query is converted to its own PromQL and its own title. -/
theorem entries_of_parse_ok {q : Query} (h : Query.parse text c.labels = .ok q) :
    ∃ r, c.convert text = .ok r ∧ r.query = text ∧
      Promql.ofText text c.rules c.labels = .ok r.promql ∧
      r.title = q.title ∧ Query.titleOfText text = q.title := by
  have hempty : Query.parse text .empty =
      .ok { q with groupBy := Query.groupLabels text .empty } := by
    rw [Query.parse_eq_map_parse text .empty c.labels, h]
    rfl
  refine ⟨(c.convertQuery text q).1, ?_, rfl, ?_, rfl, ?_⟩
  · rw [convert, h]
  · rw [Promql.ofText, h]
    rfl
  · rw [Query.titleOfText, hempty]
    rfl

/-- The titles of conversions do not depend on the tables, and neither do the texts that fail. -/
theorem map_title_convert (c : Converter) (text : String) :
    (c.convert text).map Converted.title = (Query.parse text .empty).map Query.title := by
  rw [← Query.map_title_parse text c.labels, convert]
  cases Query.parse text c.labels with
  | error e => rfl
  | ok q => rfl

/-- **The three entry points agree.**  A text is converted exactly if it has a PromQL, and exactly
if its title is not the one of texts that are no queries.  A conversion holds the text itself, its
PromQL and its title, which is not empty.  The only error is that of the text, which it carries
unchanged, and it is the same for a conversion and for the PromQL alone.  Other tables change
neither the title nor which texts fail. -/
theorem convert_agrees (c : Converter) (text : String) :
    ((∃ r, c.convert text = .ok r) ↔
        ∃ promql, Promql.ofText text c.rules c.labels = .ok promql) ∧
      ((∃ r, c.convert text = .ok r) ↔ Query.titleOfText text ≠ Query.fallbackTitle) ∧
      (∀ r, c.convert text = .ok r →
        r.query = text ∧ Promql.ofText text c.rules c.labels = .ok r.promql ∧
          r.title = Query.titleOfText text ∧ r.title ≠ "" ∧ r.title ≠ Query.fallbackTitle) ∧
      (∀ e, (c.convert text = .error e ↔ Promql.ofText text c.rules c.labels = .error e) ∧
        (c.convert text = .error e → e = ⟨text⟩)) ∧
      ∀ other : Converter,
        (c.convert text).map Converted.title = (other.convert text).map Converted.title := by
  have htables : ∀ other : Converter,
      (c.convert text).map Converted.title = (other.convert text).map Converted.title := by
    intro other
    rw [map_title_convert, map_title_convert]
  cases hparse : Query.parse text c.labels with
  | error e =>
    obtain ⟨hconvert, hpromql, htitle⟩ := entries_of_parse_error hparse
    have he : e = ⟨text⟩ := (Query.parse_eq_error_iff.1 hparse).2
    refine ⟨?_, ?_, ?_, ?_, htables⟩
    · simp [hconvert, hpromql]
    · simp [hconvert, htitle]
    · simp [hconvert]
    · simp [hconvert, hpromql, he, eq_comm]
  | ok q =>
    obtain ⟨r, hconvert, hquery, hpromql, hr, htitle⟩ := entries_of_parse_ok hparse
    refine ⟨?_, ?_, ?_, ?_, htables⟩
    · simp [hconvert, hpromql]
    · simp [hconvert, htitle, q.title_ne_fallbackTitle]
    · rintro r' hr'
      rw [hconvert] at hr'
      cases hr'
      refine ⟨hquery, hpromql, hr.trans htitle.symm, ?_, ?_⟩
      · rw [hr]
        exact q.title_ne_empty
      · rw [hr]
        exact q.title_ne_fallbackTitle
    · simp [hconvert, hpromql]

end Converter

end DashQuery

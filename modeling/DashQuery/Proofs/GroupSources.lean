import DashQuery.Proofs.Dispatch
import DashQuery.Proofs.WildcardPlaces

/-!
# The two sources of a grouping

The attributes of a by clause and the labels of the grouping are read from the text apart from each
other, and whether a query is grouped is decided a third time from the labels.  Here the three are
compared.

* `byAttributes_of_isFirstByBlock`: the by clause in terms of the block that it is read from.
* `wildcardAttributes_of_isSelectorBlock`: the wildcards in terms of their places in the selector.
* `groupBy_eq_of_parse`: the grouping takes the by clause or, without one, the wildcards, and never
  both.
* `groupBy_sources`: all of it for the queries that are read.
-/

namespace DashQuery.Query

variable {text : String} {labels : Label.Table} {q : Query} {front contents : List Char}

/-! ## The sources -/

theorem byAttributes_of_isFirstByBlock (h : IsFirstByBlock text.toList front contents) :
    byAttributes text =
      (contents.splitOn ',').map fun piece => String.ofList (Text.trim piece) := by
  rw [byAttributes, byClause?_eq_some_iff.2 ⟨front, h⟩]

theorem wildcardAttributes_of_isSelectorBlock (h : IsSelectorBlock text.toList front contents) :
    wildcardAttributes text =
      (wildcardPlaces contents).map fun i => String.ofList (labelAt contents i) := by
  rw [wildcardAttributes, selector?_eq_some_iff.2 ⟨front, h⟩]
  dsimp only
  rw [wildcardLabels_eq, List.map_map]
  rfl

/-- Without a block that is closed there is no selector to look for wildcards in. -/
theorem wildcardAttributes_of_forall_not
    (h : ∀ front contents, ¬ IsSelectorBlock text.toList front contents) :
    wildcardAttributes text = [] := by
  rw [wildcardAttributes, selector?_eq_none_iff.2 h]

/-! ## The grouping -/

/-- **The grouping has one source.**  It labels the attributes of the by clause or, without one,
those that a wildcard follows. -/
theorem groupBy_eq_of_parse (h : parse text labels = .ok q) :
    q.groupBy =
      (if q.byClause = [] then wildcardAttributes text else q.byClause).map labels.labelOf := by
  obtain ⟨-, hgroup, hclause, -⟩ := scans_of_parse h
  rw [hgroup, hclause]
  by_cases hnone : byClause? text.toList = none
  · rw [if_pos (byAttributes_eq_nil_iff.2 hnone), groupLabels, hnone]
  · rw [if_neg (fun hnil => hnone (byAttributes_eq_nil_iff.1 hnil))]
    exact groupLabels_eq_map_byAttributes labels (Option.isSome_iff_ne_none.2 hnone)

theorem isGrouped_iff_renderGroupLabels (h : parse text labels = .ok q) :
    q.isGrouped = true ↔ renderGroupLabels text labels ≠ "" := by
  obtain ⟨-, hgroup, -, -⟩ := scans_of_parse h
  rw [isGrouped_iff, hgroup, bne_iff_ne, renderGroupLabels]

/-- **The by clause, the grouping and the test for a grouping agree.**  For every query that is
read, with every table: there is a by clause exactly if some block can be read as one, and then it
holds the trimmed pieces between the commas of the first such block, blank and repeated ones
included.  If there is one, the labels to group by are those of its entries, one for each, and no
wildcard adds any.  If there is none, they are those of the wildcards in the selector, in the order
of their places.  The query is grouped exactly if the labels are joined to a non-empty text. -/
theorem groupBy_sources (h : parse text labels = .ok q) :
    (q.byClause = [] ↔ ∀ front contents, ¬ IsByBlock text.toList front contents) ∧
      (∀ front contents, IsFirstByBlock text.toList front contents →
        q.byClause = (contents.splitOn ',').map fun piece => String.ofList (Text.trim piece)) ∧
      (q.byClause ≠ [] → q.groupBy = q.byClause.map labels.labelOf) ∧
      (q.byClause = [] →
        (∀ front contents, IsSelectorBlock text.toList front contents →
          q.groupBy = (wildcardPlaces contents).map
            fun i => labels.labelOf (String.ofList (labelAt contents i))) ∧
        ((∀ front contents, ¬ IsSelectorBlock text.toList front contents) → q.groupBy = [])) ∧
      (q.isGrouped = true ↔ renderGroupLabels text labels ≠ "") := by
  have hgroup := groupBy_eq_of_parse h
  refine ⟨byClause_eq_nil_iff h, fun front contents hblock => ?_, fun hne => ?_, fun hnil => ?_,
    isGrouped_iff_renderGroupLabels h⟩
  · obtain ⟨-, -, hclause, -⟩ := scans_of_parse h
    rw [hclause]
    exact byAttributes_of_isFirstByBlock hblock
  · rwa [if_neg hne] at hgroup
  · rw [if_pos hnil] at hgroup
    constructor
    · intro front contents hblock
      rw [hgroup, wildcardAttributes_of_isSelectorBlock hblock, List.map_map]
      rfl
    · intro hnone
      rw [hgroup, wildcardAttributes_of_forall_not hnone, List.map_nil]

/-- A blank and a repeated entry of the by clause each give a label, and the wildcard in the
selector gives none. -/
theorem groupBy_sources_blank_and_repeated :
    ∃ q, parse "count:m\x7bhost:*\x7d by \x7ba, ,a\x7d" .empty = .ok q ∧
      q.byClause = ["a", "", "a"] ∧ q.groupBy = q.byClause.map Label.Table.empty.labelOf := by
  have hq : ∃ q, parse "count:m\x7bhost:*\x7d by \x7ba, ,a\x7d" .empty = .ok q ∧
      q.byClause = ["a", "", "a"] := ⟨_, rfl, by decide⟩
  obtain ⟨q, hparse, hclause⟩ := hq
  have hne : q.byClause ≠ [] := by
    rw [hclause]
    exact List.cons_ne_nil _ _
  exact ⟨q, hparse, hclause, (groupBy_sources hparse).2.2.1 hne⟩

end DashQuery.Query

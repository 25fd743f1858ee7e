import DashQuery.Proofs.Lexing
import DashQuery.Proofs.WildcardLabels

/-!
# Grouping labels and wildcard filters

Without a by clause a query is grouped by the labels that the scan for wildcards finds in its
selector, while its filters are read from the tokens of the selector.  The scan knows nothing of
tokens, and its labels have fewer characters than a key may have.  So it can group by a label that
no filter names: `service-name:*` is a filter on `service-name` and groups by `name`.

* `exists_glob_filter_iff`: which tokens are filters on a key with a glob for a value.
* `exists_labels_separating`: a label table can tell an attribute from all others.
* `labelsNamed_iff_exists_glob`: when every label that a query is grouped by is the label of one of
  its wildcard filters, for one label table and for all of them.
-/

namespace DashQuery.Query

variable {selector token key : List Char} {text : String} {labels : Label.Table}

/-! ## Tokens with a glob -/

/-- The token is a filter on the key with a glob for a value: without the blanks around it and a sign
in front of it, it is the key, a colon and a value with a wildcard.  The key ends at the first
colon and is no template variable, and a text without a sign does not begin with one. -/
def IsGlobOn (token key : List Char) : Prop :=
  ':' ∉ key ∧ key.head? ≠ some '$' ∧
    ∃ value, value.any isWildcardChar = true ∧
      (Text.trim token = '!' :: (key ++ ':' :: value) ∨
        (key ++ ':' :: value).head? ≠ some '!' ∧ Text.trim token = key ++ ':' :: value)

/-- **The tokens that are filters on a key with a glob for a value.** -/
theorem exists_glob_filter_iff :
    (∃ f, Filter.ofToken? token = some f ∧ f.wildcard = true ∧ f.key = String.ofList key) ↔
      IsGlobOn token key := by
  constructor
  · rintro ⟨f, hf, hwild, hkey⟩
    obtain ⟨hbody, hcolon, hdollar, hglob⟩ := Filter.ofToken?_eq_some_iff.1 hf
    rw [hkey, String.toList_ofList] at hbody hcolon hdollar
    refine ⟨hcolon, hdollar, f.value.toList, hglob.symm.trans hwild, ?_⟩
    cases hneg : f.negated with
    | true =>
      rw [hneg, splitNegation_eq_true_iff] at hbody
      exact Or.inl hbody
    | false =>
      rw [hneg, splitNegation_eq_false_iff] at hbody
      exact Or.inr ⟨hbody.2 ▸ hbody.1, hbody.2⟩
  · rintro ⟨hcolon, hdollar, value, hwild, htoken⟩
    have hread : ∀ negated, splitNegation (Text.trim token) = (negated, key ++ ':' :: value) →
        Filter.ofToken? token =
          some ⟨String.ofList key, String.ofList value, negated, true⟩ := by
      intro negated hbody
      rw [Filter.ofToken?_eq_some_iff]
      simp only [String.toList_ofList]
      exact ⟨hbody, hcolon, hdollar, hwild.symm⟩
    rcases htoken with htoken | ⟨hsign, htoken⟩
    · exact ⟨_, hread true (splitNegation_eq_true_iff.2 htoken), rfl, rfl⟩
    · exact ⟨_, hread false (splitNegation_eq_false_iff.2 ⟨htoken ▸ hsign, htoken⟩), rfl, rfl⟩

/-- The keys of the wildcard filters of a selector. -/
theorem exists_wildcard_filter_iff (hsel : selector? text.toList = some selector)
    {P : String → Prop} :
    (∃ f ∈ selectorFilters text, f.wildcard = true ∧ P f.key) ↔
      ∃ token ∈ selector.splitOn ',', ∃ key, IsGlobOn token key ∧ P (String.ofList key) := by
  unfold selectorFilters
  rw [hsel]
  dsimp only
  unfold filtersOfSelector
  constructor
  · rintro ⟨f, hf, hwild, hP⟩
    obtain ⟨token, htoken, hread⟩ := List.mem_filterMap.1 hf
    have hkey : f.key = String.ofList f.key.toList := String.ofList_toList.symm
    exact ⟨token, htoken, f.key.toList, exists_glob_filter_iff.1 ⟨f, hread, hwild, hkey⟩,
      hkey ▸ hP⟩
  · rintro ⟨token, htoken, key, hglob, hP⟩
    obtain ⟨f, hread, hwild, hkey⟩ := exists_glob_filter_iff.2 hglob
    exact ⟨f, List.mem_filterMap.2 ⟨token, htoken, hread⟩, hwild, hkey ▸ hP⟩

/-! ## Labels -/

/-- An attribute without an entry has no dot in its label. -/
theorem labelOf_ne_dot {source : String} (h : labels.get? source = none) :
    labels.labelOf source ≠ "." := by
  intro hdot
  have hlabel : labels.labelOf source =
      String.ofList (Text.replaceChar '.' ['_'] source.toList) := by
    rw [Label.Table.labelOf, h]
  have hmem : '.' ∈ Text.replaceChar '.' ['_'] source.toList := by
    rw [← String.toList_ofList (l := Text.replaceChar '.' ['_'] source.toList), ← hlabel, hdot]
    decide
  exact Text.not_mem_replaceChar (by decide) hmem

/-- **A label table can tell an attribute from all others.** -/
theorem exists_labels_separating (source : String) :
    ∃ labels : Label.Table,
      ∀ other, labels.labelOf other = labels.labelOf source → other = source := by
  refine ⟨Label.Table.empty.insert source ".", fun other h => ?_⟩
  have hsource : (Label.Table.empty.insert source ".").labelOf source = "." := by
    simp [Label.Table.labelOf]
  rw [hsource] at h
  by_cases heq : other = source
  · exact heq
  · have hnone : (Label.Table.empty.insert source ".").get? other = none := by
      rw [Label.Table.get?_insert, if_neg heq]
      rfl
    exact absurd h (labelOf_ne_dot hnone)

/-! ## When the two readers agree -/

/-- Every label that the text is grouped by is the label of one of its wildcard filters. -/
def LabelsNamed (text : String) (labels : Label.Table) : Prop :=
  ∀ label ∈ groupLabels text labels,
    ∃ f ∈ selectorFilters text, f.wildcard = true ∧ labels.labelOf f.key = label

theorem labelsNamed_iff (hby : byClause? text.toList = none)
    (hsel : selector? text.toList = some selector) :
    LabelsNamed text labels ↔
      ∀ label, HasWildcardLabel selector label →
        ∃ token ∈ selector.splitOn ',', ∃ key, IsGlobOn token key ∧
          labels.labelOf (String.ofList key) = labels.labelOf (String.ofList label) := by
  unfold LabelsNamed
  rw [groupLabels_eq_of_byClause?_eq_none labels hby hsel]
  simp only [List.forall_mem_map, mem_wildcardLabels_iff]
  refine forall_congr' fun label => forall_congr' fun _ => ?_
  exact exists_wildcard_filter_iff hsel
    (P := fun key => labels.labelOf key = labels.labelOf (String.ofList label))

theorem labelsNamed_of_selector?_eq_none (hby : byClause? text.toList = none)
    (hsel : selector? text.toList = none) : LabelsNamed text labels := by
  unfold LabelsNamed groupLabels wildcardAttributes
  rw [hby, hsel]
  intro label hlabel
  cases hlabel

/-- **When the query is grouped by labels of its own filters only.**  For a label table: exactly if
every label in front of a wildcard shares its label with the key of a token that is a filter with a
glob.  For all label tables: exactly if every label in front of a wildcard is such a key itself. -/
theorem labelsNamed_iff_exists_glob (hby : byClause? text.toList = none) :
    (∀ labels, LabelsNamed text labels ↔
      ∀ selector, selector? text.toList = some selector → ∀ label, HasWildcardLabel selector label →
        ∃ token ∈ selector.splitOn ',', ∃ key, IsGlobOn token key ∧
          labels.labelOf (String.ofList key) = labels.labelOf (String.ofList label)) ∧
    ((∀ labels, LabelsNamed text labels) ↔
      ∀ selector, selector? text.toList = some selector → ∀ label, HasWildcardLabel selector label →
        ∃ token ∈ selector.splitOn ',', IsGlobOn token label) := by
  cases hsel : selector? text.toList with
  | none =>
    have hnamed : ∀ labels, LabelsNamed text labels := fun labels =>
      labelsNamed_of_selector?_eq_none hby hsel
    simp [hnamed]
  | some selector =>
    simp only [Option.some.injEq, forall_eq']
    refine ⟨fun labels => labelsNamed_iff hby hsel, ?_, ?_⟩
    · intro h label hlabel
      -- a table under which no other key has the label of this one
      obtain ⟨labels, hseparate⟩ := exists_labels_separating (String.ofList label)
      have hnamed := (labelsNamed_iff hby hsel).1 (h labels)
      obtain ⟨token, htoken, key, hglob, heq⟩ := hnamed label hlabel
      have hkey : key = label := String.ofList_inj.1 (hseparate _ heq)
      exact ⟨token, htoken, hkey ▸ hglob⟩
    · intro h labels
      refine (labelsNamed_iff hby hsel).2 fun label hlabel => ?_
      obtain ⟨token, htoken, hglob⟩ := h label hlabel
      exact ⟨token, htoken, label, hglob, rfl⟩

/-- A negated key of two words is found by both readers. -/
theorem labelsNamed_host_name :
    byClause? "count:m\x7b!host.name:*,$env,a:b\x7d".toList = none ∧
      ∀ labels, LabelsNamed "count:m\x7b!host.name:*,$env,a:b\x7d" labels := by
  have hby : byClause? "count:m\x7b!host.name:*,$env,a:b\x7d".toList = none := rfl
  refine ⟨hby, (labelsNamed_iff_exists_glob hby).2.2 fun selector hsel label hlabel => ?_⟩
  obtain rfl : "!host.name:*,$env,a:b".toList = selector := Option.some.inj hsel
  have hmem : label ∈ ["host.name".toList] := mem_wildcardLabels_iff.2 hlabel
  obtain rfl := List.mem_singleton.1 hmem
  exact ⟨"!host.name:*".toList, by decide, by decide, by decide, ['*'], by decide,
    Or.inl (by decide)⟩

/-- The key `service-name` is found by one reader and its end by the other. -/
theorem not_labelsNamed_service_name :
    byClause? "count:m\x7bservice-name:*\x7d".toList = none ∧
      groupLabels "count:m\x7bservice-name:*\x7d" .empty = ["name"] ∧
      selectorFilters "count:m\x7bservice-name:*\x7d" = [⟨"service-name", "*", false, true⟩] ∧
      ¬ LabelsNamed "count:m\x7bservice-name:*\x7d" .empty := by
  refine ⟨rfl, rfl, rfl, fun h => ?_⟩
  obtain ⟨f, hf, -, hlabel⟩ := h "name" (by decide)
  have hkey : f = ⟨"service-name", "*", false, true⟩ := List.mem_singleton.1 hf
  rw [hkey] at hlabel
  exact absurd hlabel (by decide)

end DashQuery.Query

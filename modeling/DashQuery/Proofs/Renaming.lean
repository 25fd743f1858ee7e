import DashQuery.Proofs.Scanning
import DashQuery.Settings.Basic

/-!
# Renaming an attribute twice

An attribute with an entry takes the label of its entry, any other one its own name with underscores
for dots.  Renaming the label once more should change nothing.  The labels of the entries are no
trouble if none of them is an attribute of the table.  The names with underscores are: the rule for
dots does not ask the table again, so an attribute with dots can be renamed to an attribute that the
table renames to something else.

* `labelOf_eq_self_iff`: which texts renaming leaves as they are.
* `labelOf_labelOf_iff`: when the second renaming changes nothing, for tables whose labels it leaves
  as they are.
* `Settings.labelOf_builtinLabels`: the same for the built-in table, with the attributes that it
  renames twice.
-/

namespace DashQuery

namespace Label

/-- The label of an attribute without an entry. -/
def underscored (source : String) : String :=
  String.ofList (Text.replaceChar '.' ['_'] source.toList)

theorem dot_not_mem_underscored (source : String) : '.' ∉ (underscored source).toList := by
  rw [underscored, String.toList_ofList]
  exact Text.not_mem_replaceChar (by decide)

theorem underscored_eq_self_iff {source : String} :
    underscored source = source ↔ '.' ∉ source.toList := by
  constructor
  · intro h
    rw [← h]
    exact dot_not_mem_underscored source
  · intro h
    rw [underscored, Text.replaceChar_eq_self h, String.ofList_toList]

/-- An underscore stands in the place of the dot. -/
theorem underscore_mem_underscored {source : String} (h : '.' ∈ source.toList) :
    '_' ∈ (underscored source).toList := by
  rw [underscored, String.toList_ofList]
  exact List.mem_flatMap.2 ⟨'.', h, by simp⟩

namespace Table

variable {table : Table} {source label : String}

theorem labelOf_of_get?_eq_some (h : table.get? source = some label) :
    table.labelOf source = label := by
  rw [labelOf, h]

theorem labelOf_of_get?_eq_none (h : table.get? source = none) :
    table.labelOf source = underscored source := by
  rw [labelOf, h]
  rfl

theorem get?_eq_none_iff : table.get? source = none ↔ source ∉ table.sorted.map Prod.fst := by
  rw [Option.eq_none_iff_forall_ne_some, List.mem_map]
  constructor
  · rintro h ⟨⟨source, label⟩, hmem, rfl⟩
    exact h label (mem_sorted_iff.1 hmem)
  · intro h label hget
    exact h ⟨(source, label), mem_sorted_iff.2 hget, rfl⟩

/-- **What renaming leaves as it is**: an attribute that its entry does not rename, and a name
without an entry and without dots. -/
theorem labelOf_eq_self_iff :
    table.labelOf source = source ↔
      table.get? source = some source ∨ table.get? source = none ∧ '.' ∉ source.toList := by
  cases h : table.get? source with
  | some label => simp [labelOf_of_get?_eq_some h]
  | none => simp [labelOf_of_get?_eq_none h, underscored_eq_self_iff]

/-- No label of the table has a dot, and none is an attribute of the table. -/
structure Settled (table : Table) : Prop where
  dot_not_mem : ∀ entry ∈ table.sorted, '.' ∉ entry.2.toList
  get?_eq_none : ∀ entry ∈ table.sorted, table.get? entry.2 = none

theorem Settled.dot_not_mem_labelOf (h : table.Settled) (source : String) :
    '.' ∉ (table.labelOf source).toList := by
  cases hget : table.get? source with
  | some label =>
    rw [labelOf_of_get?_eq_some hget]
    exact h.dot_not_mem _ (mem_sorted_iff.2 hget)
  | none =>
    rw [labelOf_of_get?_eq_none hget]
    exact dot_not_mem_underscored source

/-- **When renaming twice is renaming once.**  Only the rule for dots can lead to another attribute
of the table. -/
theorem labelOf_labelOf_iff (h : table.Settled) :
    table.labelOf (table.labelOf source) = table.labelOf source ↔
      (table.get? source = none → table.get? (underscored source) = none) := by
  rw [labelOf_eq_self_iff]
  cases hget : table.get? source with
  | some label =>
    have hentry := mem_sorted_iff.2 hget
    have hnone := h.get?_eq_none _ hentry
    have hdot := h.dot_not_mem _ hentry
    simp [labelOf_of_get?_eq_some hget, hnone, hdot]
  | none =>
    have hdot := dot_not_mem_underscored source
    -- an attribute that is its own label would be a label with an entry
    have hself : table.get? (underscored source) ≠ some (underscored source) := by
      intro hself
      have := h.get?_eq_none _ (mem_sorted_iff.2 hself)
      rw [hself] at this
      cases this
    simp [labelOf_of_get?_eq_none hget, hdot, hself]

end Table

end Label

namespace Settings

open Label

theorem sorted_builtinLabels :
    builtinLabels.sorted =
      [("apollo_router_cache_kind", "kind"),
       ("container_id", "dash0_resource_id"),
       ("environment", "env"),
       ("host", "dash0_resource_name"),
       ("http.response.status_code", "http_status_code"),
       ("pod_name", "dash0_resource_name"),
       ("subgraph.name", "subgraph_name")] := by
  rfl

/-- The attributes of the built-in table. -/
def builtinAttributes : List String :=
  ["apollo_router_cache_kind", "container_id", "environment", "host", "http.response.status_code",
    "pod_name", "subgraph.name"]

theorem get?_builtinLabels_eq_none_iff {source : String} :
    builtinLabels.get? source = none ↔ source ∉ builtinAttributes := by
  rw [Table.get?_eq_none_iff, sorted_builtinLabels]
  rfl

theorem settled_builtinLabels : builtinLabels.Settled := by
  constructor
  · rw [sorted_builtinLabels]
    decide
  · simp only [get?_builtinLabels_eq_none_iff, sorted_builtinLabels]
    decide

/-- The attributes of the built-in table that the rule for dots can lead to: those without a dot and
with an underscore. -/
theorem get?_builtinLabels_underscored_iff {source : String} (hdot : '.' ∈ source.toList) :
    builtinLabels.get? (underscored source) = none ↔
      underscored source ∉ ["apollo_router_cache_kind", "container_id", "pod_name"] := by
  have hreached : ∀ name ∈ builtinAttributes, '.' ∉ name.toList → '_' ∈ name.toList →
      name ∈ ["apollo_router_cache_kind", "container_id", "pod_name"] := by decide
  have hattribute : ∀ name ∈ ["apollo_router_cache_kind", "container_id", "pod_name"],
      name ∈ builtinAttributes := by decide
  rw [get?_builtinLabels_eq_none_iff, Decidable.not_iff_not]
  constructor
  · intro hmem
    exact hreached _ hmem (dot_not_mem_underscored source) (underscore_mem_underscored hdot)
  · exact hattribute _

/-- **The built-in table renames twice what the rule for dots leads to one of its attributes.**  Its
labels have no dots, and renaming a label again changes it exactly if the attribute has a dot and
reads as `apollo_router_cache_kind`, `container_id` or `pod_name` with underscores for its dots. -/
theorem labelOf_builtinLabels (source : String) :
    '.' ∉ (builtinLabels.labelOf source).toList ∧
      (builtinLabels.labelOf (builtinLabels.labelOf source) = builtinLabels.labelOf source ↔
        ¬ ('.' ∈ source.toList ∧
          underscored source ∈ ["apollo_router_cache_kind", "container_id", "pod_name"])) := by
  refine ⟨settled_builtinLabels.dot_not_mem_labelOf source, ?_⟩
  rw [Table.labelOf_labelOf_iff settled_builtinLabels]
  by_cases hdot : '.' ∈ source.toList
  · -- the two attributes of the table with dots do not become other attributes of it
    have hleft : ∀ name ∈ builtinAttributes, '.' ∈ name.toList →
        underscored name ∉ ["apollo_router_cache_kind", "container_id", "pod_name"] := by
      decide
    rw [get?_builtinLabels_underscored_iff hdot, get?_builtinLabels_eq_none_iff]
    constructor
    · rintro h ⟨-, hmem⟩
      exact h (fun hattribute => hleft _ hattribute hdot hmem) hmem
    · rintro h - hmem
      exact h ⟨hdot, hmem⟩
  · rw [underscored_eq_self_iff.2 hdot]
    simp [hdot]

/-- The attribute `apollo.router.cache.kind` is renamed to one that the table renames to `kind`. -/
theorem labelOf_builtinLabels_cache_kind :
    builtinLabels.labelOf "apollo.router.cache.kind" = "apollo_router_cache_kind" ∧
      builtinLabels.labelOf (builtinLabels.labelOf "apollo.router.cache.kind") = "kind" ∧
      builtinLabels.labelOf (builtinLabels.labelOf "apollo.router.cache.kind") ≠
        builtinLabels.labelOf "apollo.router.cache.kind" := by
  decide

end Settings

end DashQuery

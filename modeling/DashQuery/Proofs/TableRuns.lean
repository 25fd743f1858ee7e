import Mathlib.Data.Finset.Dedup
import Mathlib.Data.Finset.Card
import Mathlib.Data.List.Induction
import DashQuery.Label.Table
import DashQuery.Proofs.ByteOrder

/-!
# Changes of a label table

A label table is changed one entry at a time or rebuilt from a list of pairs.  What it holds after
any number of changes is told by the log of the pairs that were given since it was last rebuilt: the
last pair of an attribute counts, and the earlier ones leave no trace.

* `Entries.IsLast`: the last pair with a key.
* `Entries.get?_ofList_eq_some_iff`, `Entries.length_ofList`: the entries of a list of pairs.
* `Label.Change`: the changes, by their effect on a table and on a log.
* `Label.Table.run_eq_ofList`: a changed table is the table of its log.
* `Label.Table.run_agrees`: everything that can be asked of a changed table agrees with the log.
-/

namespace DashQuery

namespace Entries

variable {α : Type} {pairs : List (String × α)} {p : String × α} {key : String} {value : α}

/-! ## The entries of a list of pairs -/

/-- The pair stands in the list, and no later one has its key. -/
def IsLast (pairs : List (String × α)) (key : String) (value : α) : Prop :=
  ∃ before after, pairs = before ++ (key, value) :: after ∧ ∀ p ∈ after, p.1 ≠ key

theorem not_isLast_nil : ¬ IsLast [] key value := by
  rintro ⟨before, after, h, -⟩
  exact List.append_ne_nil_of_right_ne_nil before (List.cons_ne_nil _ after) h.symm

/-- A pair at the end is the last one with its key, and it leaves the last ones with other keys as
they are. -/
theorem isLast_append_singleton_iff :
    IsLast (pairs ++ [p]) key value ↔ if key = p.1 then p.2 = value else IsLast pairs key value := by
  constructor
  · rintro ⟨before, after, h, hafter⟩
    rcases List.eq_nil_or_concat after with rfl | ⟨after, last, rfl⟩
    · obtain ⟨-, hp⟩ := List.append_inj' h rfl
      obtain rfl : p = (key, value) := List.singleton_inj.1 hp
      rw [if_pos rfl]
    · rw [List.concat_eq_append] at h hafter
      rw [← List.cons_append, ← List.append_assoc] at h
      obtain ⟨rfl, hp⟩ := List.append_inj' h rfl
      obtain rfl : p = last := List.singleton_inj.1 hp
      have hne : p.1 ≠ key := hafter p (List.mem_append_right _ List.mem_cons_self)
      rw [if_neg (Ne.symm hne)]
      exact ⟨before, after, rfl, fun q hq => hafter q (List.mem_append_left _ hq)⟩
  · intro h
    split at h
    · rename_i hkey
      subst hkey h
      exact ⟨pairs, [], rfl, List.forall_mem_nil _⟩
    · rename_i hkey
      obtain ⟨before, after, rfl, hafter⟩ := h
      refine ⟨before, after ++ [p], by rw [List.append_assoc, List.cons_append], fun q hq => ?_⟩
      rcases List.mem_append.1 hq with hq | hq
      · exact hafter q hq
      · rw [List.mem_singleton.1 hq]
        exact Ne.symm hkey

/-- **Under a key the value of its last pair is found.** -/
theorem get?_ofList_eq_some_iff : get? key (ofList pairs) = some value ↔ IsLast pairs key value := by
  induction pairs using List.reverseRecOn with
  | nil => exact iff_of_false (Option.some_ne_none value).symm not_isLast_nil
  | append_singleton pairs p ih =>
    rw [ofList_append_singleton, get?_insert, isLast_append_singleton_iff]
    split
    · exact Option.some_inj
    · exact ih

theorem get?_ofList_eq_none_iff : get? key (ofList pairs) = none ↔ ∀ p ∈ pairs, p.1 ≠ key := by
  induction pairs using List.reverseRecOn with
  | nil => exact iff_of_true rfl (List.forall_mem_nil _)
  | append_singleton pairs p ih =>
    rw [ofList_append_singleton, get?_insert, List.forall_mem_append, List.forall_mem_singleton]
    split
    · rename_i hkey
      exact iff_of_false (Option.some_ne_none p.2) fun h => h.2 hkey.symm
    · rename_i hkey
      rw [ih]
      exact (and_iff_left (Ne.symm hkey)).symm

/-- An ordered list has a key exactly if something is found under it. -/
theorem Ordered.mem_keys_iff {es : Entries α} (h : Ordered es) :
    key ∈ es.map Prod.fst ↔ get? key es ≠ none := by
  rw [Option.ne_none_iff_exists', List.mem_map]
  constructor
  · rintro ⟨⟨k, v⟩, hmem, rfl⟩
    exact ⟨v, h.get?_eq_some_iff.2 hmem⟩
  · rintro ⟨v, hget⟩
    exact ⟨(key, v), mem_of_get? hget, rfl⟩

theorem Ordered.pairwise_keys {es : Entries α} (h : Ordered es) :
    (es.map Prod.fst).Pairwise (· < ·) :=
  List.pairwise_map.2 h

theorem Ordered.nodup_keys {es : Entries α} (h : Ordered es) : (es.map Prod.fst).Nodup := by
  refine h.pairwise_keys.imp ?_
  rintro key _ hlt rfl
  exact String.lt_irrefl key hlt

/-- **There is one entry for each key.** -/
theorem length_ofList (pairs : List (String × α)) :
    (ofList pairs).length = (pairs.map Prod.fst).toFinset.card := by
  have hordered := ordered_ofList pairs
  have hkeys : ((ofList pairs).map Prod.fst).toFinset = (pairs.map Prod.fst).toFinset := by
    ext key
    rw [List.mem_toFinset, List.mem_toFinset, hordered.mem_keys_iff, ne_eq, get?_ofList_eq_none_iff,
      List.mem_map]
    simp
  rw [← hkeys, List.toFinset_card_of_nodup hordered.nodup_keys, List.length_map]

end Entries

namespace Label

/-! ## Changes -/

/-- A change of a label table. -/
inductive Change where
  /-- An attribute is given a label. -/
  | insert (source label : String)
  /-- The table is made anew from a list of pairs. -/
  | rebuild (pairs : List (String × Target))

namespace Change

/-- The table after a change. -/
def apply (table : Table) : Change → Table
  | insert source label => table.insert source label
  | rebuild pairs => .ofList pairs

/-- The log after a change: a pair is added to it, or it begins anew. -/
def record (log : List (String × Target)) : Change → List (String × Target)
  | insert source label => log ++ [(source, .name label)]
  | rebuild pairs => pairs

/-- One change keeps the table that of its log. -/
theorem apply_ofList (log : List (String × Target)) (change : Change) :
    change.apply (.ofList log) = .ofList (change.record log) := by
  cases change with
  | insert source label =>
    have hentries := Entries.ofList_append_singleton log (source, Target.name label)
    show Table.mk _ _ = Table.mk _ _
    congr 1
    exact hentries.symm
  | rebuild pairs => rfl

end Change

namespace Table

variable {table : Table} {source label : String}

/-- A table after a list of changes. -/
def run (start : Table) (changes : List Change) : Table := changes.foldl Change.apply start

/-- The pairs that were given since the last rebuild, in order; without one, those that the table
started with come first. -/
def given (start : Table) (changes : List Change) : List (String × Target) :=
  changes.foldl Change.record start.entries

theorem ofList_entries (table : Table) : ofList table.entries = table := by
  obtain ⟨entries, hordered⟩ := table
  show Table.mk _ _ = Table.mk _ _
  congr 1
  exact Entries.ofList_of_ordered hordered

/-- Any number of changes keep the table that of its log. -/
theorem foldl_apply_ofList (changes : List Change) (log : List (String × Target)) :
    changes.foldl Change.apply (ofList log) = ofList (changes.foldl Change.record log) := by
  induction changes generalizing log with
  | nil => rfl
  | cons change changes ih =>
    rw [List.foldl_cons, List.foldl_cons, Change.apply_ofList]
    exact ih _

/-- **A changed table is the table of its log.** -/
theorem run_eq_ofList (start : Table) (changes : List Change) :
    start.run changes = ofList (start.given changes) := by
  have hrun := foldl_apply_ofList changes start.entries
  rwa [ofList_entries] at hrun

/-! ## What can be asked of a table -/

theorem get?_ofList_eq_some_iff {log : List (String × Target)} :
    (ofList log).get? source = some label ↔
      ∃ target, Entries.IsLast log source target ∧ target.label = label := by
  simp only [get?, Option.map_eq_some_iff, ofList, Entries.get?_ofList_eq_some_iff]

theorem get?_ofList_eq_none_iff {log : List (String × Target)} :
    (ofList log).get? source = none ↔ ∀ p ∈ log, p.1 ≠ source := by
  rw [get?, Option.map_eq_none_iff, ofList, Entries.get?_ofList_eq_none_iff]

theorem isEmpty_iff_size_eq_zero : table.isEmpty = true ↔ table.size = 0 := by
  rw [isEmpty, size, List.isEmpty_iff, List.length_eq_zero_iff]

/-- The attributes are listed in the order of their bytes. -/
theorem pairwise_sorted (table : Table) :
    (table.sorted.map Prod.fst).Pairwise fun a b => Text.bytes a < Text.bytes b := by
  have hkeys : table.sorted.map Prod.fst = table.entries.map Prod.fst := by
    rw [sorted, Entries.mapValues, List.map_map]
    rfl
  rw [hkeys]
  exact table.ordered.pairwise_keys.imp Text.bytes_lt_bytes

/-- A label that is given to one attribute changes the labels of no other. -/
theorem labelOf_insert (table : Table) (source label other : String) :
    (table.insert source label).labelOf other =
      if other = source then label else table.labelOf other := by
  by_cases hother : other = source
  · rw [if_pos hother, labelOf, get?_insert, if_pos hother]
  · rw [if_neg hother, labelOf, get?_insert, if_neg hother]
    rfl

/-- **A label table is the store of what was last given.**  For every table to start with and every
list of changes: an attribute has the label of its last pair in the log of the run, and none if it
has no pair there; the size is the count of the different attributes in the log, and the table is
empty exactly if it is zero; the listing has the attributes in strictly increasing order of their
bytes, each with the label that is found for it; and one more label, given to one attribute, is the
label of that attribute, while every other one keeps its own. -/
theorem run_agrees (start : Table) (changes : List Change) :
    (∀ source label, (start.run changes).get? source = some label ↔
        ∃ target, Entries.IsLast (start.given changes) source target ∧ target.label = label) ∧
      (∀ source, (start.run changes).get? source = none ↔
        ∀ p ∈ start.given changes, p.1 ≠ source) ∧
      (start.run changes).size = ((start.given changes).map Prod.fst).toFinset.card ∧
      ((start.run changes).isEmpty = true ↔ (start.run changes).size = 0) ∧
      (((start.run changes).sorted.map Prod.fst).Pairwise fun a b => Text.bytes a < Text.bytes b) ∧
      (∀ source label, (source, label) ∈ (start.run changes).sorted ↔
        (start.run changes).get? source = some label) ∧
      ∀ source label other, (start.run (changes ++ [.insert source label])).labelOf other =
        if other = source then label else (start.run changes).labelOf other := by
  have hrun := run_eq_ofList start changes
  refine ⟨fun source label => ?_, fun source => ?_, ?_, isEmpty_iff_size_eq_zero,
    pairwise_sorted _, fun source label => mem_sorted_iff, fun source label other => ?_⟩
  · rw [hrun, get?_ofList_eq_some_iff]
  · rw [hrun, get?_ofList_eq_none_iff]
  · rw [hrun]
    exact Entries.length_ofList _
  · have hstep : start.run (changes ++ [.insert source label]) =
        (start.run changes).insert source label := List.foldl_append
    rw [hstep, labelOf_insert]

end Table

end Label

end DashQuery

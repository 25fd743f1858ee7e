import DashQuery.Entries
import DashQuery.Text.Scan

/-!
# Label tables

Attributes are renamed to labels by a table.  An attribute without an entry keeps its name, with an
underscore in the place of every dot.

* `get?_insert`: giving a label to one attribute changes no other.
* `mem_sorted_iff`: the listing agrees with what is found.
-/

namespace DashQuery.Label

/-- How an entry of a label table was given. -/
inductive Target where
  /-- The label alone. -/
  | name (label : String)
  /-- The label in a record that may describe it. -/
  | detailed (label : String) (description? : Option String)
  deriving DecidableEq, Repr

/-- The label of an entry. -/
def Target.label : Target → String
  | name label => label
  | detailed label _ => label

/-- Labels by attribute, every attribute occurring once. -/
structure Table where
  entries : Entries Target
  ordered : entries.Ordered
  deriving DecidableEq

namespace Table

/-- The table without entries. -/
def empty : Table := ⟨[], Entries.ordered_nil⟩

/-- The table of a list of entries, of which a later one replaces an earlier one. -/
def ofList (pairs : List (String × Target)) : Table :=
  ⟨Entries.ofList pairs, Entries.ordered_ofList pairs⟩

/-- The table with an entry, whatever the attribute had before. -/
def insertTarget (table : Table) (source : String) (target : Target) : Table :=
  ⟨table.entries.insert source target, Entries.ordered_insert _ _ table.ordered⟩

/-- The table that gives an attribute a label. -/
def insert (table : Table) (source label : String) : Table :=
  table.insertTarget source (.name label)

/-- The label of an attribute, if it has an entry. -/
def get? (table : Table) (source : String) : Option String :=
  (table.entries.get? source).map Target.label

/-- The count of attributes. -/
def size (table : Table) : Nat := table.entries.length

/-- Whether no attribute has an entry. -/
def isEmpty (table : Table) : Bool := table.entries.isEmpty

/-- The attributes and their labels in increasing order of attributes. -/
def sorted (table : Table) : List (String × String) := table.entries.mapValues Target.label

@[simp] theorem get?_insert (table : Table) (source other label : String) :
    (table.insert source label).get? other =
      if other = source then some label else table.get? other := by
  simp only [get?, insert, insertTarget, Entries.get?_insert]
  split <;> simp [Target.label]

theorem mem_sorted_iff {table : Table} {source label : String} :
    (source, label) ∈ table.sorted ↔ table.get? source = some label := by
  simp only [sorted, Entries.mapValues, get?, Option.map_eq_some_iff, List.mem_map, Prod.mk.injEq]
  constructor
  · rintro ⟨⟨k, target⟩, hmem, rfl, rfl⟩
    exact ⟨target, table.ordered.get?_eq_some_iff.2 hmem, rfl⟩
  · rintro ⟨target, hget, rfl⟩
    exact ⟨(source, target), table.ordered.get?_eq_some_iff.1 hget, rfl, rfl⟩

/-- The label of an attribute, by its entry or by the rule for dots. -/
def labelOf (table : Table) (source : String) : String :=
  match table.get? source with
  | some label => label
  | none => String.ofList (Text.replaceChar '.' ['_'] source.toList)

end Table

end DashQuery.Label

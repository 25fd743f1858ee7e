import DashQuery.Value

/-!
# Tables under construction

While a TOML text is read, a table remembers how it came about, since that decides what may be
added to it later.

* A table with a header of its own is complete once the next header begins.
* A table that a header only passes through may still get a header of its own.
* A table that dotted keys have made may be extended by dotted keys only.
-/

namespace DashQuery.Toml

/-- How a table came about. -/
inductive Origin where
  | header
  | implied
  | dotted
  deriving DecidableEq, Repr

/-- What stands under a key. -/
inductive Item where
  /-- A value, to which nothing can be added. -/
  | value (v : Value)
  | table (origin : Origin) (fields : List (String × Item))
  /-- The tables of an array of tables, the last one first. -/
  | tables (elements : List (List (String × Item)))
  deriving Inhabited

/-- The fields of a table. -/
abbrev Fields := List (String × Item)

mutual

/-- The value of an item. -/
def Item.toValue : Item → Value
  | .value v => v
  | .table _ fields => .table (fieldValues fields)
  | .tables elements => .list (elementValues elements).reverse

/-- The values of fields. -/
def fieldValues : List (String × Item) → List (String × Value)
  | [] => []
  | (key, item) :: fields => (key, item.toValue) :: fieldValues fields

/-- The values of the tables of an array of tables. -/
def elementValues : List (List (String × Item)) → List Value
  | [] => []
  | fields :: elements => .table (fieldValues fields) :: elementValues elements

end

namespace Fields

/-- The fields with a value under a path of keys, the tables on the way being made or extended by
the dots.  Nothing is overwritten. -/
def insertDotted? (v : Value) (key : String) : List String → Fields → Option Fields
  | [], fields =>
    match Entries.get? key fields with
    | none => some (Entries.insert key (.value v) fields)
    | some _ => none
  | k :: path, fields =>
    match Entries.get? k fields with
    | none =>
      (insertDotted? v key path []).map fun sub => Entries.insert k (.table .dotted sub) fields
    | some (.table origin sub) =>
      if origin = .header ∨ (path = [] ∧ origin ≠ .dotted) then none
      else
        (insertDotted? v key path sub).map fun sub => Entries.insert k (.table origin sub) fields
    | some (.tables (last :: before)) =>
      if path = [] then none
      else
        (insertDotted? v key path last).map fun last =>
          Entries.insert k (.tables (last :: before)) fields
    | some _ => none

/-- The fields with a change to the table at the end of a path of headers, the last table of an
array of tables standing for the array. -/
def modify? (change : Fields → Option Fields) : List String → Fields → Option Fields
  | [], fields => change fields
  | k :: path, fields =>
    match Entries.get? k fields with
    | none =>
      (modify? change path []).map fun sub => Entries.insert k (.table .implied sub) fields
    | some (.table origin sub) =>
      (modify? change path sub).map fun sub => Entries.insert k (.table origin sub) fields
    | some (.tables (last :: before)) =>
      (modify? change path last).map fun last =>
        Entries.insert k (.tables (last :: before)) fields
    | some _ => none

/-- The fields with a table under a key that has none yet, or none but an implied one. -/
def openTable? (key : String) (fields : Fields) : Option Fields :=
  match Entries.get? key fields with
  | none => some (Entries.insert key (.table .header []) fields)
  | some (.table .implied sub) => some (Entries.insert key (.table .header sub) fields)
  | some _ => none

/-- The fields with one more table in the array of tables under a key. -/
def openElement? (key : String) (fields : Fields) : Option Fields :=
  match Entries.get? key fields with
  | none => some (Entries.insert key (.tables [[]]) fields)
  | some (.tables elements) => some (Entries.insert key (.tables ([] :: elements)) fields)
  | some _ => none

end Fields

end DashQuery.Toml

import DashQuery.Value

/-!
# Wrapped values

A table in a settings file may be the wrapping of a value: the value stands under a key of its own,
and an identifier may stand beside it.  Everything else in the wrapping counts for nothing, but
what has to be an identifier is one everywhere, or the file cannot be read.

* `unwrap?_list`, `unwrap?_table`: what is wrapped is unwrapped at every depth.
* `ofFields_eq_table`: a table that wraps nothing has its own fields.
-/

namespace DashQuery.Value

/-- The key under which a wrapping holds its value. -/
def wrappedKey : String := "___figment_value_value"

/-- The key under which a wrapping holds its identifier. -/
def identifierKey : String := "___figment_value_id"

/-- The value that the fields of a table stand for, of which a later one replaces an earlier one:
the wrapped value, if there is one. -/
def ofFields (fields : List (String × Value)) : Value :=
  let entries := Entries.ofList fields
  (Entries.get? wrappedKey entries).getD (.table entries)

mutual

/-- A value without its wrappings and their identifiers. -/
def unwrap? (isIdentifier : Value → Bool) : Value → Option Value
  | .list items => (unwrapItems? isIdentifier items).map .list
  | .table fields => (unwrapFields? isIdentifier fields).map ofFields
  | v => some v

/-- The items of a list without their wrappings. -/
def unwrapItems? (isIdentifier : Value → Bool) : List Value → Option (List Value)
  | [] => some []
  | v :: items => do
    let v ← unwrap? isIdentifier v
    let items ← unwrapItems? isIdentifier items
    some (v :: items)

/-- The fields of a table without its identifiers and without the wrappings of the others. -/
def unwrapFields? (isIdentifier : Value → Bool) :
    List (String × Value) → Option (List (String × Value))
  | [] => some []
  | (key, v) :: fields =>
    if key = identifierKey then
      if isIdentifier v then unwrapFields? isIdentifier fields else none
    else do
      let v ← unwrap? isIdentifier v
      let fields ← unwrapFields? isIdentifier fields
      some ((key, v) :: fields)

end

/-- The fields of a file, of which a later one replaces an earlier one, without the wrappings of
their values; the file itself wraps nothing. -/
def unwrapFile? (isIdentifier : Value → Bool) (fields : List (String × Value)) :
    Option (List (String × Value)) :=
  (fields.mapM fun e => (unwrap? isIdentifier e.2).map (e.1, ·)).map Entries.ofList

theorem unwrap?_list (isIdentifier : Value → Bool) (items : List Value) :
    unwrap? isIdentifier (list items) = (unwrapItems? isIdentifier items).map list := by
  rw [unwrap?]

theorem unwrap?_table (isIdentifier : Value → Bool) (fields : List (String × Value)) :
    unwrap? isIdentifier (table fields) = (unwrapFields? isIdentifier fields).map ofFields := by
  rw [unwrap?]

theorem ofFields_eq_table {fields : List (String × Value)}
    (h : Entries.get? wrappedKey (Entries.ofList fields) = none) :
    ofFields fields = table (Entries.ofList fields) := by
  simp [ofFields, h]

end DashQuery.Value

import DashQuery.Entries

/-!
# Values

What a settings file or an environment variable can say, whatever the format.  Tables are merged
key by key at every depth; anything else replaces what it is merged over.

* `merge_table`, `get?_mergeFields`: what is found in merged tables.
-/

namespace DashQuery

/-- A value of a settings file. -/
inductive Value where
  | null
  | bool (b : Bool)
  /-- A number as it is written. -/
  | number (literal : String)
  | char (c : Char)
  | text (s : String)
  | list (items : List Value)
  | table (fields : List (String × Value))
  deriving Inhabited

namespace Value

mutual

/-- The value `high` on top of the value `low`. -/
def merge (low high : Value) : Value :=
  match low, high with
  | table a, table b => table (mergeFields a b)
  | _, high => high

/-- The fields `high` on top of the fields `low`. -/
def mergeFields (low : List (String × Value)) : List (String × Value) → List (String × Value)
  | [] => low
  | (key, value) :: high =>
    Entries.insert key
      (match Entries.get? key low with
        | some below => merge below value
        | none => value)
      (mergeFields low high)

end

theorem merge_table (a b : List (String × Value)) :
    merge (table a) (table b) = table (mergeFields a b) := by
  rw [merge]

/-- A key of merged fields is found where it occurs, and merged where it occurs twice. -/
theorem get?_mergeFields (key : String) (low high : List (String × Value)) :
    Entries.get? key (mergeFields low high) =
      match Entries.get? key high with
      | none => Entries.get? key low
      | some value =>
        match Entries.get? key low with
        | some below => some (merge below value)
        | none => some value := by
  induction high with
  | nil => simp [mergeFields]
  | cons e high ih =>
    obtain ⟨k, v⟩ := e
    rw [mergeFields, Entries.get?_insert]
    by_cases hk : key = k
    · subst hk
      simp only [if_true, Entries.get?]
      cases Entries.get? key low <;> rfl
    · simp only [hk, if_false, Entries.get?, ih]

/-- Merging keeps fields in order. -/
theorem ordered_mergeFields {low : List (String × Value)} (high : List (String × Value))
    (h : Entries.Ordered low) : Entries.Ordered (mergeFields low high) := by
  induction high with
  | nil => rwa [mergeFields]
  | cons e high ih =>
    obtain ⟨k, v⟩ := e
    rw [mergeFields]
    exact Entries.ordered_insert _ _ ih

/-- The value at the end of a path of keys. -/
def nested : List String → Value → Value
  | [], value => value
  | key :: path, value => table [(key, nested path value)]

/-- What is found under a key of a table. -/
def get? (key : String) : Value → Option Value
  | table fields => Entries.get? key fields
  | _ => none

end Value

end DashQuery

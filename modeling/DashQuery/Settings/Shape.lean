import DashQuery.Settings.Basic
import DashQuery.Value

/-!
# Settings as values

Settings are written as a value and read from one.  Reading ignores fields that it does not know.
A record of the settings may also be given as the list of its fields in their order, an entry of the
label table excepted.  In a text the rules stand in front of the label table, in a layer of settings
the fields are in the order of their keys.

* `ofFields?_toFields`: settings are read back from their fields.
-/

namespace DashQuery

/-- The text of a value that is a text or a single character. -/
def Value.string? : Value → Option String
  | .text s => some s
  | .char c => some (String.ofList [c])
  | _ => none

/-- The kind that a value names. -/
def Metric.Kind.ofValue? : Value → Option Metric.Kind
  | .text s => ofName? s
  | .table ((name, .null) :: _) => ofName? name
  | _ => none

namespace Metric.Rule

/-- The rule with the given fields. -/
def ofFields? (fields : List (String × Value)) : Option Rule := do
  let pattern ← (Entries.get? "pattern" fields).bind Value.string?
  let kind ← (Entries.get? "type" fields).bind Kind.ofValue?
  some ⟨pattern, kind⟩

/-- The rule that a value stands for. -/
def ofValue? : Value → Option Rule
  | .table fields => ofFields? fields
  | .list (pattern :: kind :: _) => do some ⟨← pattern.string?, ← Kind.ofValue? kind⟩
  | _ => none

/-- The rules that a value lists. -/
def listOfValue? : Value → Option (List Rule)
  | .list items => items.mapM ofValue?
  | _ => none

/-- A rule as a value. -/
def toValue (rule : Rule) : Value :=
  .table [("pattern", .text rule.pattern), ("type", .text rule.kind.name)]

end Metric.Rule

namespace Label.Target

/-- The description that a field holds, which may be null. -/
def descriptionOf? : Option Value → Option (Option String)
  | none => some none
  | some .null => some none
  | some (.text s) => some (some s)
  | some _ => none

/-- The entry of a label table that a value stands for. -/
def ofValue? : Value → Option Target
  | .text label => some (name label)
  | .table fields =>
    match Entries.get? "dash0_name" fields, descriptionOf? (Entries.get? "description" fields) with
    | some (.text label), some description? => some (detailed label description?)
    | _, _ => none
  | _ => none

/-- An entry of a label table as a value. -/
def toValue : Target → Value
  | name label => .text label
  | detailed label none => .table [("dash0_name", .text label)]
  | detailed label (some description) =>
    .table [("dash0_name", .text label), ("description", .text description)]

end Label.Target

namespace Label.Table

/-- The label table with the given fields. -/
def ofFields? : List (String × Value) → Option Table
  | [] => some empty
  | (source, v) :: fields => do
    let target ← Target.ofValue? v
    let table ← ofFields? fields
    some (table.insertTarget source target)

/-- The label table that a value stands for. -/
def ofValue? : Value → Option Table
  | .table fields => ofFields? fields
  | _ => none

/-- A label table as a value. -/
def toValue (table : Table) : Value := .table (table.entries.mapValues Target.toValue)

end Label.Table

namespace Settings

/-- The value of a field of a record, by its key or as the first item of a list. -/
def onlyField? (key : String) : Value → Option Value
  | .table fields => Entries.get? key fields
  | .list (v :: _) => some v
  | _ => none

/-- The rules that the part of the settings about metrics holds. -/
def rulesOfValue? (v : Value) : Option (List Metric.Rule) :=
  (onlyField? "rules" v).bind Metric.Rule.listOfValue?

/-- The label table that the part of the settings about attributes holds. -/
def labelsOfValue? (v : Value) : Option Label.Table :=
  (onlyField? "mappings" v).bind Label.Table.ofValue?

/-- The settings with the given fields; a part that is missing is built in. -/
def ofFields? (fields : List (String × Value)) : Option Settings := do
  let rules ← match Entries.get? "metric_types" fields with
    | some v => rulesOfValue? v
    | none => some builtinRules
  let labels ← match Entries.get? "attribute_mappings" fields with
    | some v => labelsOfValue? v
    | none => some builtinLabels
  some ⟨rules, labels⟩

/-- The field of settings with the rules. -/
def rulesField (s : Settings) : String × Value :=
  ("metric_types", .table [("rules", .list (s.rules.map Metric.Rule.toValue))])

/-- The field of settings with the label table. -/
def labelsField (s : Settings) : String × Value :=
  ("attribute_mappings", .table [("mappings", s.labels.toValue)])

/-- The fields of settings in the order of their keys. -/
def toFields (s : Settings) : List (String × Value) := [s.labelsField, s.rulesField]

/-- Settings as the value that they are written as, with the rules first. -/
def toValue (s : Settings) : Value := .table [s.rulesField, s.labelsField]

end Settings

/-! ## Settings are read back from their fields -/

theorem Metric.Rule.ofValue?_toValue (rule : Metric.Rule) : ofValue? rule.toValue = some rule := by
  simp [toValue, ofValue?, ofFields?, Entries.get?, Value.string?, Kind.ofValue?]

theorem Metric.Rule.listOfValue?_toValue (rules : List Metric.Rule) :
    listOfValue? (.list (rules.map toValue)) = some rules := by
  rw [listOfValue?]
  induction rules with
  | nil => rfl
  | cons rule rules ih => simp [List.mapM_cons, ofValue?_toValue, ih]

theorem Label.Target.ofValue?_toValue (target : Label.Target) :
    ofValue? target.toValue = some target := by
  unfold toValue
  split <;> simp [ofValue?, Entries.get?, descriptionOf?]

theorem Label.Table.get?_ofFields? {es : Entries Target} {table : Table}
    (h : ofFields? (es.mapValues Target.toValue) = some table) (source : String) :
    table.entries.get? source = es.get? source := by
  induction es generalizing table with
  | nil => cases h; rfl
  | cons e es ih =>
    obtain ⟨k, target⟩ := e
    simp only [Entries.mapValues, List.map_cons, ofFields?, Target.ofValue?_toValue,
      Option.bind_eq_bind, Option.bind_some, Option.bind_eq_some_iff, Option.some.injEq] at h
    obtain ⟨t, ht, rfl⟩ := h
    simp only [insertTarget, Entries.get?_insert, Entries.get?]
    split
    · rfl
    · exact ih ht

theorem Label.Table.ofFields?_isSome (es : Entries Target) :
    (ofFields? (es.mapValues Target.toValue)).isSome := by
  induction es with
  | nil => rfl
  | cons e es ih =>
    obtain ⟨t, ht⟩ := Option.isSome_iff_exists.1 ih
    simp only [Entries.mapValues] at ht
    simp [Entries.mapValues, ofFields?, Target.ofValue?_toValue, ht]

theorem Label.Table.ofValue?_toValue (table : Label.Table) :
    ofValue? table.toValue = some table := by
  obtain ⟨t, ht⟩ := Option.isSome_iff_exists.1 (ofFields?_isSome table.entries)
  rw [toValue, ofValue?, ht]
  have := Entries.Ordered.ext t.ordered table.ordered fun key => get?_ofFields? ht key
  cases t; cases table; simp_all

theorem Settings.ofFields?_toFields (s : Settings) : ofFields? s.toFields = some s := by
  simp [toFields, rulesField, labelsField, ofFields?, Entries.get?, rulesOfValue?, labelsOfValue?,
    onlyField?, Metric.Rule.listOfValue?_toValue, Label.Table.ofValue?_toValue]

end DashQuery

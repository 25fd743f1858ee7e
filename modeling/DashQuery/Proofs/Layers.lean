import DashQuery.Settings.Load

/-!
# Layers of settings

Settings are what results from three layers: the built-in one, a file and the environment.  Tables
are merged key by key, so an entry of the label table that one layer leaves open can be filled in by
another one.  The rules are a list, and a list is never merged.

* `Value.Overlays`: a reading for which the upper one of two merged values wins.
* `Settings.isSome_ofFields?_iff`: which merged layers are settings.
* `Settings.givenValue?_mergeFields`: an entry of merged label tables is merged from their entries.
* `Settings.ofLayers_highest`: the highest layer that gives the rules, or the label of an attribute,
  gives those of the settings, and no attribute is lost.
-/

namespace DashQuery

variable {α : Type}

/-! ## Readings of merged values -/

namespace Value

variable {low high : Value} {low? high? : Option Value} {P : α → Prop} {read : Value → Option α}

/-- Whether a value is a table. -/
def isTable : Value → Bool
  | table _ => true
  | _ => false

theorem isTable_iff {v : Value} : v.isTable = true ↔ ∃ fields, v = table fields := by
  cases v <;> simp [isTable]

/-- Whatever is no table replaces what it is merged over. -/
theorem merge_of_not_isTable (h : high.isTable = false) : merge low high = high := by
  cases high with
  | table fields => cases h
  | _ => cases low <;> rw [merge] <;> simp

/-- A table replaces what is no table. -/
theorem merge_of_not_isTable_low (h : low.isTable = false) : merge low high = high := by
  cases low with
  | table fields => cases h
  | _ => cases high <;> rw [merge] <;> simp

/-- Two values are merged to a table only if the upper one is a table. -/
theorem isTable_merge : (merge low high).isTable = high.isTable := by
  cases hhigh : high.isTable with
  | false => rw [merge_of_not_isTable hhigh, hhigh]
  | true =>
    obtain ⟨b, rfl⟩ := isTable_iff.1 hhigh
    cases hlow : low.isTable with
    | false => rw [merge_of_not_isTable_low hlow, hhigh]
    | true =>
      obtain ⟨a, rfl⟩ := isTable_iff.1 hlow
      rw [merge_table]
      rfl

/-- What is found in merged fields is merged from what is found in them. -/
theorem get?_mergeFields_eq (key : String) (low high : List (String × Value)) :
    Entries.get? key (mergeFields low high) =
      Option.merge merge (Entries.get? key low) (Entries.get? key high) := by
  rw [get?_mergeFields]
  cases Entries.get? key high <;> cases Entries.get? key low <;> rfl

/-- A reading for which the upper one of two merged values wins, as far as it gives something; only
results that satisfy `P` count. -/
def Overlays (P : α → Prop) (read : Value → Option α) : Prop :=
  ∀ low high a, P a → read (merge low high) = some a → (read high).or (read low) = some a

/-- The upper one wins also where one of them may be missing. -/
theorem Overlays.of_merge (h : Overlays P read) {a : α} (ha : P a)
    (hread : (Option.merge merge low? high?).bind read = some a) :
    (high?.bind read).or (low?.bind read) = some a := by
  cases high? with
  | none =>
    cases low? with
    | none => cases hread
    | some low => exact hread
  | some high =>
    cases low? with
    | none =>
      have hhigh : read high = some a := hread
      simp [hhigh]
    | some low => exact h low high a ha hread

/-- Keys of merged tables are found as in merged fields. -/
theorem bind_get?_merge (hlow : low?.all isTable) (hhigh : high?.all isTable) (key : String) :
    (Option.merge merge low? high?).bind (get? key) =
      Option.merge merge (low?.bind (get? key)) (high?.bind (get? key)) := by
  cases high? with
  | none => simp
  | some high =>
    cases low? with
    | none => simp
    | some low =>
      obtain ⟨a, rfl⟩ := isTable_iff.1 hlow
      obtain ⟨b, rfl⟩ := isTable_iff.1 hhigh
      exact (congrArg (get? key) (merge_table a b)).trans (get?_mergeFields_eq key a b)

theorem all_isTable_merge (hlow : low?.all isTable) (hhigh : high?.all isTable) :
    (Option.merge merge low? high?).all isTable := by
  cases high? with
  | none => simpa using hlow
  | some high =>
    cases low? with
    | none => exact hhigh
    | some low => simpa [isTable_merge] using hhigh

end Value

/-! ## Which values are settings -/

/-- A value that stands for a text. -/
def Value.IsString (v : Value) : Prop := (∃ s, v = .text s) ∨ ∃ c, v = .char c

theorem Value.isSome_string?_iff {v : Value} : v.string?.isSome ↔ v.IsString := by
  cases v <;> simp [string?, IsString]

/-- A value that names a kind, by its name or as the key of a table. -/
def Metric.Kind.IsNamed (v : Value) : Prop :=
  ∃ kind : Kind, v = .text kind.name ∨ ∃ fields, v = .table ((kind.name, .null) :: fields)

theorem Metric.Kind.ofName?_eq_some_iff {text : String} {kind : Kind} :
    ofName? text = some kind ↔ text = kind.name := by
  constructor
  · intro h
    have hname := List.find?_some h
    exact (of_decide_eq_true hname).symm
  · rintro rfl
    exact ofName?_name kind

theorem Metric.Kind.isSome_ofValue?_iff {v : Value} : (ofValue? v).isSome ↔ IsNamed v := by
  rw [Option.isSome_iff_exists]
  constructor
  · rintro ⟨kind, h⟩
    unfold ofValue? at h
    split at h
    · exact ⟨kind, .inl (by rw [ofName?_eq_some_iff.1 h])⟩
    · exact ⟨kind, .inr ⟨_, by rw [ofName?_eq_some_iff.1 h]⟩⟩
    · cases h
  · rintro ⟨kind, rfl | ⟨fields, rfl⟩⟩
    · exact ⟨kind, ofName?_name kind⟩
    · exact ⟨kind, ofName?_name kind⟩

/-- A value that stands for a rule: a pattern and a kind under their keys, or in this order at the
front of a list. -/
def Metric.Rule.IsShaped (v : Value) : Prop :=
  ∃ pattern kind, pattern.IsString ∧ Kind.IsNamed kind ∧
    ((∃ fields, v = .table fields ∧ Entries.get? "pattern" fields = some pattern ∧
        Entries.get? "type" fields = some kind) ∨
      ∃ others, v = .list (pattern :: kind :: others))

theorem Metric.Rule.isSome_ofValue?_iff {v : Value} : (ofValue? v).isSome ↔ IsShaped v := by
  simp only [IsShaped, ← Value.isSome_string?_iff, ← Kind.isSome_ofValue?_iff,
    Option.isSome_iff_exists]
  constructor
  · rintro ⟨rule, h⟩
    unfold ofValue? at h
    split at h
    · rename_i fields
      simp only [ofFields?, Option.bind_eq_bind, Option.bind_eq_some_iff] at h
      obtain ⟨pattern, ⟨p, hp, hpattern⟩, kind, ⟨k, hk, hkind⟩, -⟩ := h
      exact ⟨p, k, ⟨pattern, hpattern⟩, ⟨kind, hkind⟩, .inl ⟨fields, rfl, hp, hk⟩⟩
    · rename_i p k others
      simp only [Option.bind_eq_bind, Option.bind_eq_some_iff] at h
      obtain ⟨pattern, hpattern, kind, hkind, -⟩ := h
      exact ⟨p, k, ⟨pattern, hpattern⟩, ⟨kind, hkind⟩, .inr ⟨others, rfl⟩⟩
    · cases h
  · rintro ⟨p, k, ⟨pattern, hpattern⟩, ⟨kind, hkind⟩, ⟨fields, rfl, hp, hk⟩ | ⟨others, rfl⟩⟩
    · exact ⟨⟨pattern, kind⟩, by simp [ofValue?, ofFields?, hp, hk, hpattern, hkind]⟩
    · exact ⟨⟨pattern, kind⟩, by simp [ofValue?, hpattern, hkind]⟩

theorem Metric.Rule.isSome_listOfValue?_iff {v : Value} :
    (listOfValue? v).isSome ↔ ∃ items, v = .list items ∧ ∀ item ∈ items, IsShaped item := by
  have hitems : ∀ items : List Value,
      (items.mapM ofValue?).isSome ↔ ∀ item ∈ items, IsShaped item := by
    intro items
    induction items with
    | nil => simp
    | cons item items ih =>
      rw [List.forall_mem_cons, ← ih, ← isSome_ofValue?_iff, List.mapM_cons]
      cases ofValue? item <;> cases items.mapM ofValue? <;> simp
  cases v with
  | list items => simpa [listOfValue?] using hitems items
  | _ => simp [listOfValue?]

/-- A value that stands for an entry of a label table: the label, or a table with the label and
perhaps a description. -/
def Label.Target.IsShaped (v : Value) : Prop :=
  (∃ label, v = .text label) ∨
    ∃ fields label, v = .table fields ∧ Entries.get? "dash0_name" fields = some (.text label) ∧
      ∀ d, Entries.get? "description" fields = some d → d = .null ∨ ∃ s, d = .text s

theorem Label.Target.isSome_descriptionOf?_iff {d? : Option Value} :
    (descriptionOf? d?).isSome ↔ ∀ d, d? = some d → d = .null ∨ ∃ s, d = .text s := by
  cases d? with
  | none => simp [descriptionOf?]
  | some d => cases d <;> simp [descriptionOf?]

theorem Label.Target.isSome_ofValue?_iff {v : Value} : (ofValue? v).isSome ↔ IsShaped v := by
  unfold IsShaped
  simp only [← isSome_descriptionOf?_iff]
  constructor
  · intro h
    unfold ofValue? at h
    split at h
    · exact .inl ⟨_, rfl⟩
    · rename_i fields
      split at h
      · rename_i label description? hlabel hdescription
        exact .inr ⟨fields, label, rfl, hlabel, by rw [hdescription]; rfl⟩
      · cases h
    · cases h
  · rintro (⟨label, rfl⟩ | ⟨fields, label, rfl, hlabel, hdescription⟩)
    · rfl
    · obtain ⟨description?, hdescription⟩ := Option.isSome_iff_exists.1 hdescription
      simp [ofValue?, hlabel, hdescription]

/-- A label table holds what the fields it is read from stand for. -/
theorem Label.Table.entries_get?_of_ofFields? {fields : List (String × Value)} {table : Table}
    (h : ofFields? fields = some table) (source : String) :
    table.entries.get? source = (Entries.get? source fields).bind Target.ofValue? := by
  induction fields generalizing table with
  | nil => cases h; rfl
  | cons e fields ih =>
    obtain ⟨k, v⟩ := e
    simp only [ofFields?, Option.bind_eq_bind, Option.bind_eq_some_iff, Option.some.injEq] at h
    obtain ⟨target, htarget, rest, hrest, rfl⟩ := h
    simp only [insertTarget, Entries.get?_insert, Entries.get?]
    split
    · rw [Option.bind_some, htarget]
    · exact ih hrest

/-- A label table has the attributes of the fields it is read from. -/
theorem Label.Table.isSome_entries_get?_of_ofFields? {fields : List (String × Value)}
    {table : Table} (h : ofFields? fields = some table) (source : String) :
    (table.entries.get? source).isSome = (Entries.get? source fields).isSome := by
  induction fields generalizing table with
  | nil => cases h; rfl
  | cons e fields ih =>
    obtain ⟨k, v⟩ := e
    simp only [ofFields?, Option.bind_eq_bind, Option.bind_eq_some_iff, Option.some.injEq] at h
    obtain ⟨target, -, rest, hrest, rfl⟩ := h
    simp only [insertTarget, Entries.get?_insert, Entries.get?]
    split
    · rfl
    · exact ih hrest

theorem Label.Table.isSome_ofFields?_iff {fields : List (String × Value)} :
    (ofFields? fields).isSome ↔ ∀ e ∈ fields, Target.IsShaped e.2 := by
  induction fields with
  | nil => simp [ofFields?]
  | cons e fields ih =>
    obtain ⟨k, v⟩ := e
    rw [List.forall_mem_cons, ← ih, ← Target.isSome_ofValue?_iff, ofFields?]
    cases Target.ofValue? v <;> cases ofFields? fields <;> simp

theorem Label.Table.isSome_ofValue?_iff {v : Value} :
    (ofValue? v).isSome ↔ ∃ fields, v = .table fields ∧ ∀ e ∈ fields, Target.IsShaped e.2 := by
  cases v with
  | table fields => simpa [ofValue?] using isSome_ofFields?_iff
  | _ => simp [ofValue?]

namespace Settings

/-- Fields that stand for settings: the rules are a list of rules, and the labels are a table of
labels, wherever they are present. -/
structure Shaped (fields : List (String × Value)) : Prop where
  rules : ∀ v, Entries.get? "metric_types" fields = some v →
    ∃ items, onlyField? "rules" v = some (.list items) ∧
      ∀ item ∈ items, Metric.Rule.IsShaped item
  labels : ∀ v, Entries.get? "attribute_mappings" fields = some v →
    ∃ entries, onlyField? "mappings" v = some (.table entries) ∧
      ∀ e ∈ entries, Label.Target.IsShaped e.2

theorem isSome_rulesOfValue?_iff {v : Value} :
    (rulesOfValue? v).isSome ↔ ∃ items, onlyField? "rules" v = some (.list items) ∧
      ∀ item ∈ items, Metric.Rule.IsShaped item := by
  rw [rulesOfValue?]
  cases onlyField? "rules" v with
  | none => simp
  | some w => simp [Metric.Rule.isSome_listOfValue?_iff]

theorem isSome_labelsOfValue?_iff {v : Value} :
    (labelsOfValue? v).isSome ↔ ∃ entries, onlyField? "mappings" v = some (.table entries) ∧
      ∀ e ∈ entries, Label.Target.IsShaped e.2 := by
  rw [labelsOfValue?]
  cases onlyField? "mappings" v with
  | none => simp
  | some w => simp [Label.Table.isSome_ofValue?_iff]

/-- Settings are read from their two parts, each of which is built in if it is missing. -/
theorem ofFields?_eq_some_iff {fields : List (String × Value)} {s : Settings} :
    ofFields? fields = some s ↔
      ((Entries.get? "metric_types" fields).elim (some builtinRules) rulesOfValue? = some s.rules ∧
        (Entries.get? "attribute_mappings" fields).elim (some builtinLabels) labelsOfValue? =
          some s.labels) := by
  have hparts : ofFields? fields =
      ((Entries.get? "metric_types" fields).elim (some builtinRules) rulesOfValue?).bind fun rules =>
        ((Entries.get? "attribute_mappings" fields).elim (some builtinLabels) labelsOfValue?).bind
          fun labels => some ⟨rules, labels⟩ := by
    rw [ofFields?]
    cases Entries.get? "metric_types" fields <;> cases Entries.get? "attribute_mappings" fields <;>
      rfl
  obtain ⟨rules, labels⟩ := s
  simp [hparts, Option.bind_eq_some_iff]

/-- **Which fields are settings.** -/
theorem isSome_ofFields?_iff {fields : List (String × Value)} :
    (ofFields? fields).isSome ↔ Shaped fields := by
  have hshaped : Shaped fields ↔
      (∀ v, Entries.get? "metric_types" fields = some v → (rulesOfValue? v).isSome) ∧
        ∀ v, Entries.get? "attribute_mappings" fields = some v → (labelsOfValue? v).isSome := by
    simp only [isSome_rulesOfValue?_iff, isSome_labelsOfValue?_iff]
    exact ⟨fun h => ⟨h.rules, h.labels⟩, fun h => ⟨h.1, h.2⟩⟩
  have hexists : (∃ s : Settings, ofFields? fields = some s) ↔
      ((Entries.get? "metric_types" fields).elim (some builtinRules) rulesOfValue?).isSome ∧
        ((Entries.get? "attribute_mappings" fields).elim (some builtinLabels)
          labelsOfValue?).isSome := by
    simp only [ofFields?_eq_some_iff, Option.isSome_iff_exists]
    constructor
    · rintro ⟨s, hrules, hlabels⟩
      exact ⟨⟨s.rules, hrules⟩, ⟨s.labels, hlabels⟩⟩
    · rintro ⟨⟨rules, hrules⟩, ⟨labels, hlabels⟩⟩
      exact ⟨⟨rules, labels⟩, hrules, hlabels⟩
  rw [Option.isSome_iff_exists, hexists, hshaped]
  cases Entries.get? "metric_types" fields <;> cases Entries.get? "attribute_mappings" fields <;>
    simp

end Settings

/-! ## What a layer gives -/

/-- The label that an entry gives, by itself or in a table. -/
def Label.Target.given? : Value → Option String
  | .text label => some label
  | .table fields =>
    match Entries.get? "dash0_name" fields with
    | some (.text label) => some label
    | _ => none
  | _ => none

/-- An entry of a label table has the label that it gives. -/
theorem Label.Target.given?_of_ofValue? {v : Value} {target : Target}
    (h : ofValue? v = some target) : given? v = some target.label := by
  unfold ofValue? at h
  split at h
  · cases h
    rfl
  · split at h
    · rename_i hlabel _
      cases h
      simp [given?, hlabel, Target.label]
    · cases h
  · cases h

/-- **Of two merged entries the upper one gives the label, unless it gives none.** -/
theorem Label.Target.overlays_given? : Value.Overlays (fun _ => True) given? := by
  intro low high label _ h
  cases hhigh : high.isTable with
  | false =>
    rw [Value.merge_of_not_isTable hhigh] at h
    rw [h, Option.some_or]
  | true =>
    obtain ⟨b, rfl⟩ := Value.isTable_iff.1 hhigh
    cases hlow : low.isTable with
    | false =>
      rw [Value.merge_of_not_isTable_low hlow] at h
      rw [h, Option.some_or]
    | true =>
      obtain ⟨a, rfl⟩ := Value.isTable_iff.1 hlow
      rw [Value.merge_table, given?, Value.get?_mergeFields_eq] at h
      cases hb : Entries.get? "dash0_name" b with
      | none =>
        rw [hb, Option.merge_none_right] at h
        simpa [given?, hb] using h
      | some w =>
        -- a text is not merged with what is below it
        have hlabel : w = .text label := by
          split at h
          · rename_i hmerged
            cases h
            rw [hb] at hmerged
            cases ha : Entries.get? "dash0_name" a with
            | none => simpa [ha] using hmerged
            | some below =>
              rw [ha] at hmerged
              have hw : Value.merge below w = .text label := Option.some.inj hmerged
              have htable : w.isTable = false := by rw [← Value.isTable_merge, hw]; rfl
              rw [← hw, Value.merge_of_not_isTable htable]
          · cases h
        simp [given?, hb, hlabel]

namespace Settings

/-- **Of two merged records the upper one gives a field, unless it lacks it.**  A field that is a
table is merged itself. -/
theorem overlays_onlyField? (key : String) :
    Value.Overlays (fun v => v.isTable = false) (onlyField? key) := by
  intro low high v hv h
  cases hhigh : high.isTable with
  | false =>
    rw [Value.merge_of_not_isTable hhigh] at h
    rw [h, Option.some_or]
  | true =>
    obtain ⟨b, rfl⟩ := Value.isTable_iff.1 hhigh
    cases hlow : low.isTable with
    | false =>
      rw [Value.merge_of_not_isTable_low hlow] at h
      rw [h, Option.some_or]
    | true =>
      obtain ⟨a, rfl⟩ := Value.isTable_iff.1 hlow
      rw [Value.merge_table, onlyField?, Value.get?_mergeFields_eq] at h
      show (Entries.get? key b).or (Entries.get? key a) = some v
      cases hb : Entries.get? key b with
      | none => simpa [hb] using h
      | some w =>
        cases ha : Entries.get? key a with
        | none => simpa [ha, hb] using h
        | some below =>
          rw [ha, hb] at h
          have hw : Value.merge below w = v := Option.some.inj h
          have htable : w.isTable = false := by rw [← Value.isTable_merge, hw, hv]
          rw [Option.some_or, ← hw, Value.merge_of_not_isTable htable]

variable {file environment low high layer : List (String × Value)} {s : Settings}

/-- The rules that a layer gives, as they are written: the field of the part about metrics, or its
first item if the part is written as the list of its fields. -/
def givenRules? (layer : List (String × Value)) : Option Value :=
  (Entries.get? "metric_types" layer).bind (onlyField? "rules")

/-- The label table that a layer gives, as it is written. -/
def givenLabels? (layer : List (String × Value)) : Option Value :=
  (Entries.get? "attribute_mappings" layer).bind (Value.get? "mappings")

/-- The entry that a layer gives to an attribute, as it is written. -/
def givenValue? (source : String) (layer : List (String × Value)) : Option Value :=
  (givenLabels? layer).bind (Value.get? source)

/-- The label that a layer gives to an attribute. -/
def givenLabel? (source : String) (layer : List (String × Value)) : Option String :=
  (givenValue? source layer).bind Label.Target.given?

/-- A layer whose part about attributes, and the label table in it, are tables where present. -/
structure Tabular (layer : List (String × Value)) : Prop where
  part : (Entries.get? "attribute_mappings" layer).all Value.isTable
  labels : (givenLabels? layer).all Value.isTable

instance (layer : List (String × Value)) : Decidable (Tabular layer) :=
  decidable_of_iff ((Entries.get? "attribute_mappings" layer).all Value.isTable = true ∧
      (givenLabels? layer).all Value.isTable = true)
    ⟨fun h => ⟨h.1, h.2⟩, fun h => ⟨h.part, h.labels⟩⟩

/-! ## Merged layers -/

theorem givenLabels?_mergeFields (hlow : Tabular low) (hhigh : Tabular high) :
    givenLabels? (Value.mergeFields low high) =
      Option.merge Value.merge (givenLabels? low) (givenLabels? high) := by
  rw [givenLabels?, Value.get?_mergeFields_eq, Value.bind_get?_merge hlow.part hhigh.part]
  rfl

/-- **An entry of merged label tables is merged from the entries in them.** -/
theorem givenValue?_mergeFields (hlow : Tabular low) (hhigh : Tabular high) (source : String) :
    givenValue? source (Value.mergeFields low high) =
      Option.merge Value.merge (givenValue? source low) (givenValue? source high) := by
  rw [givenValue?, givenLabels?_mergeFields hlow hhigh,
    Value.bind_get?_merge hlow.labels hhigh.labels]
  rfl

theorem Tabular.mergeFields (hlow : Tabular low) (hhigh : Tabular high) :
    Tabular (Value.mergeFields low high) := by
  constructor
  · rw [Value.get?_mergeFields_eq]
    exact Value.all_isTable_merge hlow.part hhigh.part
  · rw [givenLabels?_mergeFields hlow hhigh]
    exact Value.all_isTable_merge hlow.labels hhigh.labels

theorem givenLabel?_mergeFields (hlow : Tabular low) (hhigh : Tabular high) {source label : String}
    (h : givenLabel? source (Value.mergeFields low high) = some label) :
    (givenLabel? source high).or (givenLabel? source low) = some label := by
  rw [givenLabel?, givenValue?_mergeFields hlow hhigh] at h
  exact Label.Target.overlays_given?.of_merge trivial h

theorem givenRules?_mergeFields {v : Value} (hv : v.isTable = false)
    (h : givenRules? (Value.mergeFields low high) = some v) :
    (givenRules? high).or (givenRules? low) = some v := by
  rw [givenRules?, Value.get?_mergeFields_eq] at h
  exact (overlays_onlyField? "rules").of_merge hv h

/-- The layers of settings, from the highest one on. -/
def layers (file environment : List (String × Value)) : List (List (String × Value)) :=
  [environment, file, builtin.toFields]

theorem tabular_builtin : Tabular builtin.toFields := by
  decide +kernel

theorem tabular_mergeLayers (hfile : Tabular file) (henvironment : Tabular environment) :
    Tabular (mergeLayers file environment) :=
  (tabular_builtin.mergeFields hfile).mergeFields henvironment

/-- A part that is built in is there, whatever is merged over it. -/
theorem isSome_get?_mergeLayers {key : String}
    (h : (Entries.get? key builtin.toFields).isSome) :
    (Entries.get? key (mergeLayers file environment)).isSome := by
  rw [mergeLayers, Value.get?_mergeFields_eq, Value.get?_mergeFields_eq]
  cases Entries.get? key environment <;> cases Entries.get? key file <;> simp [h]

theorem ofLayers_eq_ok_iff :
    ofLayers file environment = .ok s ↔ ofFields? (mergeLayers file environment) = some s := by
  rw [ofLayers]
  cases ofFields? (mergeLayers file environment) with
  | none => simp
  | some t => simp

/-- **The layers are settings exactly if what results from merging them is.** -/
theorem exists_ofLayers_eq_ok_iff :
    (∃ s, ofLayers file environment = .ok s) ↔ Shaped (mergeLayers file environment) := by
  simp only [ofLayers_eq_ok_iff, ← isSome_ofFields?_iff, Option.isSome_iff_exists]

/-- The rules of settings are those of their fields, if there is a part about metrics. -/
theorem rules_of_ofFields? {fields : List (String × Value)} (h : ofFields? fields = some s)
    (hpart : (Entries.get? "metric_types" fields).isSome) :
    ∃ items, givenRules? fields = some (.list items) ∧
      Metric.Rule.listOfValue? (.list items) = some s.rules := by
  obtain ⟨part, hget⟩ := Option.isSome_iff_exists.1 hpart
  have hrules := (ofFields?_eq_some_iff.1 h).1
  rw [hget] at hrules
  obtain ⟨v, hv, hlist⟩ := Option.bind_eq_some_iff.1 hrules
  obtain ⟨items, rfl, -⟩ :=
    Metric.Rule.isSome_listOfValue?_iff.1 (Option.isSome_iff_exists.2 ⟨s.rules, hlist⟩)
  exact ⟨items, by rw [givenRules?, hget, Option.bind_some, hv], hlist⟩

/-- The label table of settings is read from that of their fields, if there is a part about
attributes. -/
theorem labels_of_ofFields? {fields : List (String × Value)} (h : ofFields? fields = some s)
    (htabular : Tabular fields) (hpart : (Entries.get? "attribute_mappings" fields).isSome) :
    ∃ entries, givenLabels? fields = some (.table entries) ∧
      Label.Table.ofFields? entries = some s.labels := by
  obtain ⟨part, hget⟩ := Option.isSome_iff_exists.1 hpart
  have htable := htabular.part
  rw [hget, Option.all_some] at htable
  obtain ⟨partFields, rfl⟩ := Value.isTable_iff.1 htable
  have hlabels := (ofFields?_eq_some_iff.1 h).2
  rw [hget] at hlabels
  obtain ⟨v, hv, hvalue⟩ := Option.bind_eq_some_iff.1 hlabels
  obtain ⟨entries, rfl, -⟩ :=
    Label.Table.isSome_ofValue?_iff.1 (Option.isSome_iff_exists.2 ⟨s.labels, hvalue⟩)
  refine ⟨entries, ?_, hvalue⟩
  rw [givenLabels?, hget]
  exact hv

/-- What the upper one of two layers wins for, the highest layer that gives it gives. -/
theorem findSome?_layers {read : List (String × Value) → Option α} {a : α}
    (h : (read environment).or ((read file).or (read builtin.toFields)) = some a) :
    (layers file environment).findSome? read = some a := by
  rw [layers, List.findSome?_cons, List.findSome?_cons, List.findSome?_cons, List.findSome?_nil]
  cases henvironment : read environment with
  | some b => simpa [henvironment] using h
  | none =>
    cases hfile : read file with
    | some b => simpa [henvironment, hfile] using h
    | none => cases hbuiltin : read builtin.toFields <;> simp_all

theorem givenRules?_mergeLayers {v : Value} (hv : v.isTable = false)
    (h : givenRules? (mergeLayers file environment) = some v) :
    (layers file environment).findSome? givenRules? = some v := by
  have hhigh := givenRules?_mergeFields hv h
  refine findSome?_layers ?_
  cases hrules : givenRules? environment with
  | some w => rwa [hrules, Option.some_or] at hhigh
  | none =>
    rw [hrules, Option.none_or] at hhigh
    rw [Option.none_or]
    exact givenRules?_mergeFields hv hhigh

theorem givenLabel?_mergeLayers (hfile : Tabular file) (henvironment : Tabular environment)
    {source label : String}
    (h : givenLabel? source (mergeLayers file environment) = some label) :
    (layers file environment).findSome? (givenLabel? source) = some label := by
  have hhigh := givenLabel?_mergeFields (tabular_builtin.mergeFields hfile) henvironment h
  refine findSome?_layers ?_
  cases hlabel : givenLabel? source environment with
  | some other => rwa [hlabel, Option.some_or] at hhigh
  | none =>
    rw [hlabel, Option.none_or] at hhigh
    rw [Option.none_or]
    exact givenLabel?_mergeFields tabular_builtin hfile hhigh

/-- **No attribute of a layer is lost, and none is added.** -/
theorem isSome_givenValue?_mergeLayers (hfile : Tabular file) (henvironment : Tabular environment)
    (source : String) :
    (givenValue? source (mergeLayers file environment)).isSome ↔
      ∃ layer ∈ layers file environment, (givenValue? source layer).isSome := by
  rw [mergeLayers, givenValue?_mergeFields (tabular_builtin.mergeFields hfile) henvironment,
    givenValue?_mergeFields tabular_builtin hfile, layers]
  simp only [List.mem_cons, List.not_mem_nil, or_false, exists_eq_or_imp, exists_eq_left]
  cases givenValue? source environment <;> cases givenValue? source file <;>
    cases givenValue? source builtin.toFields <;> simp

/-- The fields of a settings file; a file that is not there gives none. -/
def fileLayer? (format : Format) (text? : Option String) : Option (List (String × Value)) :=
  text?.elim (some []) (fileFields? format)

/-- Loading is merging the three layers and reading what results. -/
theorem load_eq_ofLayers {format : Format} {text? : Option String} {vars : List (String × String)}
    (hfile : fileLayer? format text? = some file)
    (henvironment : environmentFields? vars = some environment) :
    load format text? vars = ofLayers file environment := by
  rw [load, henvironment]
  cases text? with
  | none =>
    cases hfile
    rfl
  | some text =>
    have hfields : fileFields? format text = some file := hfile
    simp only [hfields]

/-- **Layering loses nothing, and the highest layer wins.**  Loading reads what the layers are
merged to, and this alone says whether they are settings.  If they are, the rules are those that the
highest layer gives, and an attribute has an entry exactly if one of the layers has one for it, with
the label that the highest layer gives. -/
theorem ofLayers_highest (hfile : Tabular file) (henvironment : Tabular environment) :
    (∀ format text? vars, fileLayer? format text? = some file →
        environmentFields? vars = some environment →
          load format text? vars = ofLayers file environment) ∧
      ((∃ s, ofLayers file environment = .ok s) ↔ Shaped (mergeLayers file environment)) ∧
      ∀ s, ofLayers file environment = .ok s →
        ((layers file environment).findSome? givenRules?).bind Metric.Rule.listOfValue? =
            some s.rules ∧
          ∀ source,
            ((s.labels.get? source).isSome ↔
              ∃ layer ∈ layers file environment, (givenValue? source layer).isSome) ∧
            s.labels.get? source = (layers file environment).findSome? (givenLabel? source) := by
  refine ⟨fun _ _ _ => load_eq_ofLayers, exists_ofLayers_eq_ok_iff, fun s hs => ?_⟩
  have hfields : ofFields? (mergeLayers file environment) = some s := ofLayers_eq_ok_iff.1 hs
  obtain ⟨items, hrules, hlist⟩ :=
    rules_of_ofFields? hfields (isSome_get?_mergeLayers (by decide +kernel))
  obtain ⟨entries, hgiven, hread⟩ := labels_of_ofFields? hfields
    (tabular_mergeLayers hfile henvironment) (isSome_get?_mergeLayers (by decide +kernel))
  refine ⟨by rw [givenRules?_mergeLayers rfl hrules, Option.bind_some, hlist], fun source => ?_⟩
  have hentry : givenValue? source (mergeLayers file environment) = Entries.get? source entries := by
    rw [givenValue?, hgiven]
    rfl
  have hsome : (s.labels.get? source).isSome =
      (givenValue? source (mergeLayers file environment)).isSome := by
    rw [Label.Table.get?, Option.isSome_map, hentry,
      Label.Table.isSome_entries_get?_of_ofFields? hread]
  have hlayers := isSome_givenValue?_mergeLayers hfile henvironment source
  refine ⟨by rw [hsome, hlayers], ?_⟩
  cases hlabel : s.labels.get? source with
  | none =>
    -- no layer has an entry, so none gives a label
    rw [hlabel] at hsome
    refine (List.findSome?_eq_none_iff.2 fun layer hlayer => ?_).symm
    cases hgives : givenValue? source layer with
    | none => rw [givenLabel?, hgives, Option.bind_none]
    | some v =>
      have := hlayers.2 ⟨layer, hlayer, by rw [hgives]; rfl⟩
      rw [← hsome] at this
      cases this
  | some label =>
    refine (givenLabel?_mergeLayers hfile henvironment ?_).symm
    rw [Label.Table.get?, Option.map_eq_some_iff] at hlabel
    obtain ⟨target, htarget, rfl⟩ := hlabel
    rw [Label.Table.entries_get?_of_ofFields? hread, Option.bind_eq_some_iff] at htarget
    obtain ⟨v, hv, hof⟩ := htarget
    rw [givenLabel?, hentry, hv, Option.bind_some]
    exact Label.Target.given?_of_ofValue? hof

/-- An entry that the file leaves without a label is completed by the environment, beside an entry
and rules of the file and the entries that are built in. -/
theorem ofLayers_completed_entry :
    ∃ file environment s,
      file = [("attribute_mappings", .table [("mappings", .table
          [("host", .table [("description", .text "pod")]), ("team", .text "owner")])]),
        ("metric_types", .table [("rules", .list [.list [.char '*', .text "sum"]])])] ∧
      environment = [("attribute_mappings", .table [("mappings", .table
          [("host", .table [("dash0_name", .text "k8s_pod")])])])] ∧
      Tabular file ∧ Tabular environment ∧ ofLayers file [] = .error .wrongShape ∧
      ofLayers file environment = .ok s ∧ s.rules = [⟨"*", .sum⟩] ∧
      s.labels.get? "host" = some "k8s_pod" ∧ s.labels.get? "team" = some "owner" ∧
      s.labels.get? "environment" = some "env" ∧ s.labels.get? "pod" = none := by
  have hfile : Tabular [("attribute_mappings", .table [("mappings", .table
      [("host", .table [("description", .text "pod")]), ("team", .text "owner")])]),
      ("metric_types", .table [("rules", .list [.list [.char '*', .text "sum"]])])] := by
    decide
  have henvironment : Tabular [("attribute_mappings", .table [("mappings", .table
      [("host", .table [("dash0_name", .text "k8s_pod")])])])] := by
    decide
  obtain ⟨-, -, hgives⟩ := ofLayers_highest hfile henvironment
  refine ⟨_, _, _, rfl, rfl, hfile, henvironment, rfl, rfl, ?_⟩
  obtain ⟨hrules, hlabels⟩ := hgives _ rfl
  refine ⟨Option.some.inj (hrules.symm.trans rfl), ?_⟩
  exact ⟨(hlabels "host").2.trans rfl, (hlabels "team").2.trans rfl,
    (hlabels "environment").2.trans rfl, (hlabels "pod").2.trans rfl⟩

end Settings

end DashQuery

import DashQuery.Command.Run
import DashQuery.Proofs.JsonText
import DashQuery.Proofs.Layers

/-!
# Settings that are shown are loaded again

What is shown of settings in JSON is a settings file.  On the way back its tables are unwrapped and
merged over the built-in ones, so it depends on the keys of the label table whether the same
settings result: none of them may be a key of the wrapping of values, and no built-in attribute may
be missing.

* `isReadable_toValue`: the reader of JSON gets through the text of settings.
* `unwrap?_table_self`: a table without the keys of a wrapping is left as it is.
* `fileFields?_stdout`: the fields of the file are those of the settings, with the label table
  unwrapped.
* `mergeFields_of_covers`: entries over all those below that are no tables replace them.
* `load_stdout_iff`: the same settings are loaded exactly if no attribute has a key of a wrapping.
-/

namespace DashQuery

variable {α β : Type}

/-! ## Entries in order -/

namespace Entries

theorem get?_mapValues (f : α → β) (key : String) (es : Entries α) :
    get? key (mapValues f es) = (get? key es).map f := by
  induction es with
  | nil => rfl
  | cons e es ih =>
    obtain ⟨k, v⟩ := e
    simp only [mapValues, List.map_cons, get?] at ih ⊢
    split
    · rfl
    · exact ih

theorem ordered_mapValues {es : Entries α} (f : α → β) (h : Ordered es) :
    Ordered (mapValues f es) := by
  rw [Ordered, mapValues, List.pairwise_map]
  exact h

theorem ordered_pair {first second : String} {a b : α} (h : first < second) :
    Ordered [(first, a), (second, b)] :=
  List.pairwise_pair.2 h

/-- Two entries that are given the other way round are put in order. -/
theorem ofList_pair {first second : String} {a b : α} (h : first < second) :
    ofList [(second, b), (first, a)] = [(first, a), (second, b)] := by
  have hne : first ≠ second := fun heq => String.lt_irrefl second (heq ▸ h)
  rw [ofList, List.foldl_cons, List.foldl_cons, List.foldl_nil, insert_nil, insert, if_neg hne,
    if_pos h]

end Entries

/-! ## Tables that wrap nothing -/

namespace Value

variable {isIdentifier : Value → Bool} {fields : List (String × Value)}

/-- Items that wrap nothing are left as they are. -/
theorem unwrapItems?_self {items : List Value}
    (h : ∀ v ∈ items, unwrap? isIdentifier v = some v) :
    unwrapItems? isIdentifier items = some items := by
  induction items with
  | nil => rw [unwrapItems?]
  | cons v items ih =>
    rw [unwrapItems?, h v List.mem_cons_self, ih fun w hw => h w (List.mem_cons_of_mem _ hw)]
    rfl

/-- Fields are left as they are if none is an identifier and their values wrap nothing. -/
theorem unwrapFields?_self (hidentifier : Entries.get? identifierKey fields = none)
    (h : ∀ e ∈ fields, unwrap? isIdentifier e.2 = some e.2) :
    unwrapFields? isIdentifier fields = some fields := by
  induction fields with
  | nil => rw [unwrapFields?]
  | cons e fields ih =>
    obtain ⟨key, v⟩ := e
    rw [Entries.get?] at hidentifier
    split at hidentifier
    · cases hidentifier
    · rename_i hne
      have hv : unwrap? isIdentifier v = some v := h (key, v) List.mem_cons_self
      rw [unwrapFields?, if_neg (Ne.symm hne), hv,
        ih hidentifier fun e he => h e (List.mem_cons_of_mem _ he)]
      rfl

/-- Fields cannot be unwrapped if what stands under the key of an identifier is none. -/
theorem unwrapFields?_eq_none {v : Value} (hget : Entries.get? identifierKey fields = some v)
    (hv : isIdentifier v = false) : unwrapFields? isIdentifier fields = none := by
  induction fields with
  | nil => cases hget
  | cons e fields ih =>
    obtain ⟨key, w⟩ := e
    rw [Entries.get?] at hget
    rw [unwrapFields?]
    split at hget
    · rename_i heq
      cases hget
      rw [if_pos heq.symm, hv]
      rfl
    · rename_i hne
      rw [if_neg (Ne.symm hne), ih hget]
      cases unwrap? isIdentifier w <;> rfl

/-- **A table without the keys of a wrapping is left as it is**, if its values are. -/
theorem unwrap?_table_self (hordered : Entries.Ordered fields)
    (hwrapped : Entries.get? wrappedKey fields = none)
    (hidentifier : Entries.get? identifierKey fields = none)
    (h : ∀ e ∈ fields, unwrap? isIdentifier e.2 = some e.2) :
    unwrap? isIdentifier (table fields) = some (table fields) := by
  have hself : Entries.ofList fields = fields := Entries.ofList_of_ordered hordered
  rw [unwrap?_table, unwrapFields?_self hidentifier h, Option.map_some,
    ofFields_eq_table (by rwa [hself]), hself]

end Value

/-! ## The values that settings are written as -/

variable {isIdentifier : Value → Bool}

theorem Value.unwrap?_text (s : String) : (text s).unwrap? isIdentifier = some (text s) := by
  rw [unwrap?] <;> simp

theorem Label.Target.isReadable_toValue (target : Target) (room : Nat) :
    Json.isReadable (room + 1) target.toValue = true := by
  unfold toValue
  split <;> simp [Json.isReadable, Json.haveReadable]

theorem Label.Target.unwrap?_toValue (target : Target) :
    target.toValue.unwrap? isIdentifier = some target.toValue := by
  unfold toValue
  split
  · exact Value.unwrap?_text _
  · refine Value.unwrap?_table_self (List.pairwise_singleton _ _) rfl rfl ?_
    simp [Value.unwrap?_text]
  · refine Value.unwrap?_table_self (Entries.ordered_pair (by decide)) rfl rfl ?_
    simp [Value.unwrap?_text]

theorem Metric.Rule.isReadable_toValue (rule : Rule) (room : Nat) :
    Json.isReadable (room + 1) rule.toValue = true := by
  simp [toValue, Json.isReadable, Json.haveReadable]

theorem Metric.Rule.unwrap?_toValue (rule : Rule) :
    rule.toValue.unwrap? isIdentifier = some rule.toValue := by
  refine Value.unwrap?_table_self (Entries.ordered_pair (by decide)) rfl rfl ?_
  simp [Value.unwrap?_text]

namespace Label.Table

variable {table : Table}

/-- The fields that a label table is written as. -/
def toFields (table : Table) : List (String × Value) := table.entries.mapValues Target.toValue

theorem toValue_eq (table : Table) : table.toValue = .table table.toFields := rfl

theorem ordered_toFields (table : Table) : Entries.Ordered table.toFields :=
  Entries.ordered_mapValues _ table.ordered

theorem isSome_get?_toFields (table : Table) (source : String) :
    (Entries.get? source table.toFields).isSome = (table.get? source).isSome := by
  rw [toFields, get?, Entries.get?_mapValues, Option.isSome_map, Option.isSome_map]

theorem exists_target_of_mem {e : String × Value} (h : e ∈ table.toFields) :
    ∃ target : Target, e.2 = target.toValue := by
  obtain ⟨entry, -, rfl⟩ := List.mem_map.1 h
  exact ⟨entry.2, rfl⟩

theorem isReadable_toValue (table : Table) (room : Nat) :
    Json.isReadable (room + 2) table.toValue = true := by
  rw [toValue_eq, Json.isReadable, Json.haveReadable_iff]
  intro e he
  obtain ⟨target, htarget⟩ := exists_target_of_mem he
  rw [htarget]
  exact target.isReadable_toValue room

/-- The entries of a label table wrap nothing. -/
theorem unwrap?_of_mem {e : String × Value} (h : e ∈ table.toFields) :
    e.2.unwrap? isIdentifier = some e.2 := by
  obtain ⟨target, htarget⟩ := exists_target_of_mem h
  rw [htarget, target.unwrap?_toValue]

theorem get?_toFields_eq_none {source : String} (h : table.get? source = none) :
    Entries.get? source table.toFields = none := by
  have hsome := table.isSome_get?_toFields source
  rwa [h, Option.isSome_none, Option.isSome_eq_false_iff, Option.isNone_iff_eq_none] at hsome

theorem exists_get?_toFields {source : String} (h : (table.get? source).isSome) :
    ∃ target : Target, Entries.get? source table.toFields = some target.toValue := by
  rw [← isSome_get?_toFields] at h
  obtain ⟨v, hv⟩ := Option.isSome_iff_exists.1 h
  obtain ⟨target, rfl⟩ := exists_target_of_mem (Entries.mem_of_get? hv)
  exact ⟨target, hv⟩

/-- A label table is left as it is, unless one of its attributes has a key of a wrapping. -/
theorem unwrap?_toValue (hwrapped : table.get? Value.wrappedKey = none)
    (hidentifier : table.get? Value.identifierKey = none) :
    table.toValue.unwrap? isIdentifier = some table.toValue := by
  exact Value.unwrap?_table_self table.ordered_toFields (get?_toFields_eq_none hwrapped)
    (get?_toFields_eq_none hidentifier) fun _ => unwrap?_of_mem

/-- A label table cannot be unwrapped if one of its attributes has the key of an identifier, since
no entry is one. -/
theorem unwrap?_toValue_eq_none (h : (table.get? Value.identifierKey).isSome)
    (hentries : ∀ target : Target, isIdentifier target.toValue = false) :
    table.toValue.unwrap? isIdentifier = none := by
  obtain ⟨target, htarget⟩ := exists_get?_toFields h
  rw [toValue_eq, Value.unwrap?_table, Value.unwrapFields?_eq_none htarget (hentries target)]
  rfl

/-- A label table is taken for the wrapping of one of its entries if an attribute has the key of
what is wrapped. -/
theorem exists_unwrap?_toValue (hwrapped : (table.get? Value.wrappedKey).isSome)
    (hidentifier : table.get? Value.identifierKey = none) :
    ∃ target : Target, table.toValue.unwrap? isIdentifier = some target.toValue := by
  obtain ⟨target, htarget⟩ := exists_get?_toFields hwrapped
  have hself : Entries.ofList table.toFields = table.toFields :=
    Entries.ofList_of_ordered table.ordered_toFields
  refine ⟨target, ?_⟩
  rw [toValue_eq, Value.unwrap?_table, Value.unwrapFields?_self (get?_toFields_eq_none hidentifier)
    fun _ => unwrap?_of_mem, Option.map_some, Value.ofFields]
  simp only [hself, htarget, Option.getD_some]

/-- An entry more takes none away. -/
theorem isSome_get?_insertTarget {source : String} (other : String) (target : Target)
    (h : (table.get? source).isSome) : ((table.insertTarget other target).get? source).isSome := by
  rw [get?, Option.isSome_map] at h ⊢
  rw [insertTarget, Entries.get?_insert]
  split
  · rfl
  · exact h

end Label.Table

namespace Settings

variable {s : Settings} {path : String} {vars : List (String × String)}

/-! ## The file -/

/-- The reader of JSON gets through the text of settings. -/
theorem isReadable_toValue (s : Settings) : Json.isReadable Json.maxDepth s.toValue = true := by
  have hrules : ∀ room, Json.areReadable (room + 1) (s.rules.map Metric.Rule.toValue) = true := by
    intro room
    rw [Json.areReadable_iff]
    intro v hv
    obtain ⟨rule, -, rfl⟩ := List.mem_map.1 hv
    exact rule.isReadable_toValue room
  have hlabels := s.labels.isReadable_toValue
  have hall : ∀ room, Json.isReadable (room + 4) s.toValue = true := by
    intro room
    simp [toValue, rulesField, labelsField, Json.isReadable, Json.haveReadable, hrules, hlabels]
  exact hall 123

/-- **What is shown of settings is read back.** -/
theorem parse?_stdout (s : Settings) :
    Format.json.parse? (Command.showSettings s true).stdout =
      some [s.rulesField, s.labelsField] := by
  have htext : (Command.showSettings s true).stdout.toList =
      Json.renderAt 0 s.toValue ++ ['\n'] := by
    simp [Command.showSettings, Command.Outcome.stdout, Command.Outcome.success, Json.render]
  have hbehind : ∀ c ∈ ['\n'], Json.isSpace c = true := by
    intro c hc
    rw [List.mem_singleton.1 hc]
    rfl
  rw [Format.parse?, htext, Json.parse?_renderAt s.isReadable_toValue 0 hbehind]
  rfl

/-- The fields of settings with given rules and the value that stands for the label table. -/
def fieldsWith (rules : List Metric.Rule) (labels : Value) : List (String × Value) :=
  [("attribute_mappings", .table [("mappings", labels)]),
   ("metric_types", .table [("rules", .list (rules.map Metric.Rule.toValue))])]

theorem ofFields?_fieldsWith (rules : List Metric.Rule) (labels : Value) :
    ofFields? (fieldsWith rules labels) = (Label.Table.ofValue? labels).map (⟨rules, ·⟩) := by
  have hrules : rulesOfValue? (.table [("rules", .list (rules.map Metric.Rule.toValue))]) =
      some rules := Metric.Rule.listOfValue?_toValue rules
  have hlabels : labelsOfValue? (.table [("mappings", labels)]) = Label.Table.ofValue? labels := rfl
  have hparts : ofFields? (fieldsWith rules labels) =
      (rulesOfValue? (.table [("rules", .list (rules.map Metric.Rule.toValue))])).bind fun rules =>
        (labelsOfValue? (.table [("mappings", labels)])).bind fun labels =>
          some (Settings.mk rules labels) := rfl
  rw [hparts, hrules, hlabels, Option.bind_some, Option.map_eq_bind]
  rfl

theorem mergeLayers_fieldsWith (rules : List Metric.Rule) (labels : Value) :
    mergeLayers (fieldsWith rules labels) [] =
      fieldsWith rules (Value.merge builtinLabels.toValue labels) := by
  rfl

/-- **The fields of the file** are those of the settings, with the label table unwrapped, in the
order of their keys. -/
theorem fileFields?_stdout (s : Settings) :
    fileFields? .json (Command.showSettings s true).stdout =
      (s.labels.toValue.unwrap? Format.json.isIdentifier).map (fieldsWith s.rules) := by
  have hitems : ∀ v ∈ s.rules.map Metric.Rule.toValue,
      v.unwrap? Format.json.isIdentifier = some v := by
    intro v hv
    obtain ⟨rule, -, rfl⟩ := List.mem_map.1 hv
    exact rule.unwrap?_toValue
  have hrules : (Value.table [("rules", .list (s.rules.map Metric.Rule.toValue))]).unwrap?
      Format.json.isIdentifier =
        some (.table [("rules", .list (s.rules.map Metric.Rule.toValue))]) := by
    refine Value.unwrap?_table_self (List.pairwise_singleton _ _) rfl rfl ?_
    simp [Value.unwrap?_list, Value.unwrapItems?_self hitems]
  have hlabels : (Value.table [("mappings", s.labels.toValue)]).unwrap?
      Format.json.isIdentifier =
        (s.labels.toValue.unwrap? Format.json.isIdentifier).map fun v =>
          .table [("mappings", v)] := by
    rw [Value.unwrap?_table, Value.unwrapFields?, if_neg (by decide), Value.unwrapFields?]
    cases s.labels.toValue.unwrap? Format.json.isIdentifier <;> rfl
  rw [fileFields?, parse?_stdout, Option.bind_some, rulesField, labelsField, Value.unwrapFile?]
  simp only [List.mapM_cons, List.mapM_nil, hrules, hlabels]
  cases s.labels.toValue.unwrap? Format.json.isIdentifier with
  | none => rfl
  | some v => exact congrArg some (Entries.ofList_pair (by decide))

/-! ## The label table -/

/-- No variable sets a field. -/
theorem environmentFields?_eq_nil
    (h : ∀ v ∈ vars, ¬ variableStart <+: (Text.trim v.1.toList).map Char.toLower) :
    environmentFields? vars = some [] := by
  have hfields : ∀ v ∈ vars, variableFields? v.1 v.2 = some [] := by
    intro v hv
    have hpath : variablePath? v.1 = none := by
      rw [variablePath?]
      split
      · rfl
      · rename_i rest hrest
        exact absurd ⟨rest, (Text.stripPrefix?_eq_some_iff.1 hrest).symm⟩ (h v hv)
    rw [variableFields?, hpath]
  rw [environmentFields?]
  clear h
  induction vars with
  | nil => rfl
  | cons v vars ih =>
    rw [List.foldlM_cons, hfields v List.mem_cons_self, Option.map_some, Value.mergeFields]
    exact ih fun w hw => hfields w (List.mem_cons_of_mem _ hw)

/-- **What is loaded of settings that are shown.** -/
theorem load_stdout (s : Settings) (hpath : extension? path = some "json".toList)
    (hvars : ∀ v ∈ vars, ¬ variableStart <+: (Text.trim v.1.toList).map Char.toLower) :
    load (.ofPath path) (some (Command.showSettings s true).stdout) vars =
      match s.labels.toValue.unwrap? Format.json.isIdentifier with
      | none => .error .malformedFile
      | some v =>
        match Label.Table.ofValue? (Value.merge builtinLabels.toValue v) with
        | none => .error .wrongShape
        | some labels => .ok ⟨s.rules, labels⟩ := by
  have hformat : Format.ofPath path = .json := if_pos hpath
  rw [load, environmentFields?_eq_nil hvars, hformat]
  simp only [fileFields?_stdout]
  cases s.labels.toValue.unwrap? Format.json.isIdentifier with
  | none => rfl
  | some v =>
    dsimp only [Option.map_some]
    rw [ofLayers, mergeLayers_fieldsWith, ofFields?_fieldsWith]
    cases Label.Table.ofValue? (Value.merge builtinLabels.toValue v) <;> rfl

/-- No entry of a label table is an identifier. -/
theorem isIdentifier_toValue (target : Label.Target) :
    Format.json.isIdentifier target.toValue = false := by
  unfold Label.Target.toValue
  split <;> rfl

/-- Fields over others without tables replace them if none of them is missing. -/
theorem mergeFields_of_covers {low high : List (String × Value)} (hlow : Entries.Ordered low)
    (hhigh : Entries.Ordered high) (htables : ∀ e ∈ low, e.2.isTable = false)
    (hcovers : ∀ key, (Entries.get? key low).isSome → (Entries.get? key high).isSome) :
    Value.mergeFields low high = high := by
  refine Entries.Ordered.ext (Value.ordered_mergeFields high hlow) hhigh fun key => ?_
  have hcover := hcovers key
  rw [Value.get?_mergeFields_eq]
  cases hbelow : Entries.get? key low with
  | none => simp
  | some below =>
    have htable : below.isTable = false := htables _ (Entries.mem_of_get? hbelow)
    rw [hbelow] at hcover
    obtain ⟨v, hv⟩ := Option.isSome_iff_exists.1 (hcover rfl)
    rw [hv, Option.merge_some_some, Value.merge_of_not_isTable_low htable]

/-- The entries of a label table with every built-in attribute are what they are merged to. -/
theorem merge_builtinLabels {labels : Label.Table}
    (hsources : ∀ source, (builtinLabels.get? source).isSome → (labels.get? source).isSome) :
    Value.merge builtinLabels.toValue labels.toValue = labels.toValue := by
  have htexts : ∀ e ∈ builtinLabels.toFields, e.2.isTable = false := by
    have hall : builtinLabels.toFields.all (fun e => !e.2.isTable) = true := by decide +kernel
    intro e he
    simpa using List.all_eq_true.1 hall e he
  rw [Label.Table.toValue_eq, Label.Table.toValue_eq, Value.merge_table]
  refine congrArg Value.table (mergeFields_of_covers builtinLabels.ordered_toFields
    labels.ordered_toFields htexts fun source => ?_)
  rw [Label.Table.isSome_get?_toFields, Label.Table.isSome_get?_toFields]
  exact hsources source

/-- No single entry has the key of what is wrapped, so merging it over the built-in labels does not
give an attribute this name. -/
theorem get?_wrappedKey_of_merge {target : Label.Target} {labels : Label.Table}
    (h : Label.Table.ofValue? (Value.merge builtinLabels.toValue target.toValue) = some labels) :
    labels.get? Value.wrappedKey = none := by
  obtain ⟨fields, hfields, -⟩ :=
    Label.Table.isSome_ofValue?_iff.1 (Option.isSome_iff_exists.2 ⟨labels, h⟩)
  have hmerged : (Value.merge builtinLabels.toValue target.toValue).isTable = true := by
    rw [hfields]
    rfl
  obtain ⟨entry, hentry⟩ := Value.isTable_iff.1 (Value.isTable_merge.symm.trans hmerged)
  have habove : Entries.get? Value.wrappedKey entry = none := by
    have hnone : target.toValue.get? Value.wrappedKey = none := by
      unfold Label.Target.toValue
      split <;> rfl
    rwa [hentry] at hnone
  have hbelow : Entries.get? Value.wrappedKey builtinLabels.toFields = none :=
    Label.Table.get?_toFields_eq_none (by decide +kernel)
  rw [hentry, Label.Table.toValue_eq, Value.merge_table] at h
  have hsome := Label.Table.isSome_entries_get?_of_ofFields? h Value.wrappedKey
  rw [Value.get?_mergeFields_eq, habove, hbelow] at hsome
  rw [Label.Table.get?, Option.map_eq_none_iff]
  simpa using hsome

/-- An attribute with the key of an identifier makes the file one that cannot be read. -/
theorem load_stdout_of_identifier (hpath : extension? path = some "json".toList)
    (hvars : ∀ v ∈ vars, ¬ variableStart <+: (Text.trim v.1.toList).map Char.toLower)
    (h : (s.labels.get? Value.identifierKey).isSome) :
    load (.ofPath path) (some (Command.showSettings s true).stdout) vars =
      .error .malformedFile := by
  rw [load_stdout s hpath hvars,
    Label.Table.unwrap?_toValue_eq_none h isIdentifier_toValue]

/-- **Settings that are shown are loaded again exactly if no attribute has a key of the wrapping of
values**, where every built-in attribute has an entry and no variable sets a field. -/
theorem load_stdout_iff (hpath : extension? path = some "json".toList)
    (hvars : ∀ v ∈ vars, ¬ variableStart <+: (Text.trim v.1.toList).map Char.toLower)
    (hsources : ∀ source, (builtinLabels.get? source).isSome → (s.labels.get? source).isSome) :
    load (.ofPath path) (some (Command.showSettings s true).stdout) vars = .ok s ↔
      s.labels.get? Value.wrappedKey = none ∧ s.labels.get? Value.identifierKey = none := by
  constructor
  · intro hload
    cases hidentifier : s.labels.get? Value.identifierKey with
    | some label =>
      rw [load_stdout_of_identifier hpath hvars (by rw [hidentifier]; rfl)] at hload
      cases hload
    | none =>
      refine ⟨?_, rfl⟩
      cases hwrapped : s.labels.get? Value.wrappedKey with
      | none => rfl
      | some label =>
        -- the file holds one entry in the place of the label table
        obtain ⟨target, htarget⟩ : ∃ target : Label.Target,
            s.labels.toValue.unwrap? Format.json.isIdentifier = some target.toValue :=
          Label.Table.exists_unwrap?_toValue (by rw [hwrapped]; rfl) hidentifier
        rw [load_stdout s hpath hvars, htarget] at hload
        dsimp only at hload
        split at hload
        · cases hload
        · rename_i labels hlabels
          have hsame : labels = s.labels := congrArg Settings.labels (Except.ok.inj hload)
          rw [← hwrapped, ← hsame, get?_wrappedKey_of_merge hlabels]
  · rintro ⟨hwrapped, hidentifier⟩
    rw [load_stdout s hpath hvars, Label.Table.unwrap?_toValue hwrapped hidentifier]
    dsimp only
    rw [merge_builtinLabels hsources, Label.Table.ofValue?_toValue]

/-- Rules, an entry with a description in the place of a built-in one, and an attribute with a dot
come back. -/
theorem load_stdout_described_entry :
    ∃ s : Settings,
      s.rules = [⟨"^jvm\\.gc", .histogram⟩, ⟨"*", .sum⟩] ∧
      s.labels = (builtinLabels.insertTarget "host"
        (.detailed "k8s_pod" (some "the \"pod\""))).insert "service.name" "service" ∧
      load (.ofPath "conf/dump.json") (some (Command.showSettings s true).stdout)
        [("HOME", "/root")] = .ok s := by
  refine ⟨⟨_, _⟩, rfl, rfl, ?_⟩
  have hpath : extension? "conf/dump.json" = some "json".toList := by decide +kernel
  refine (load_stdout_iff hpath (by decide +kernel) fun source h => ?_).2 (by decide +kernel)
  exact Label.Table.isSome_get?_insertTarget _ _ (Label.Table.isSome_get?_insertTarget _ _ h)

/-- One attribute with the key of an identifier, beside the built-in ones, and what is shown of the
settings is no settings file. -/
theorem load_stdout_identifier_attribute :
    ∃ s : Settings,
      s.rules = [⟨"*", .gauge⟩] ∧ s.labels = builtinLabels.insert "___figment_value_id" "x" ∧
      (∀ source, (builtinLabels.get? source).isSome → (s.labels.get? source).isSome) ∧
      load (.ofPath "t.json") (some (Command.showSettings s true).stdout) [] =
        .error .malformedFile := by
  refine ⟨⟨_, _⟩, rfl, rfl, fun source h => ?_, ?_⟩
  · exact Label.Table.isSome_get?_insertTarget _ _ h
  · have hpath : extension? "t.json" = some "json".toList := by decide +kernel
    exact load_stdout_of_identifier hpath (by decide) (by decide +kernel)

end Settings

end DashQuery

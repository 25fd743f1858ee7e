import DashQuery.Command.Run
import DashQuery.Proofs.Batches
import DashQuery.Proofs.EntryPoints
import DashQuery.Proofs.JsonText
import DashQuery.Proofs.RuleTables

/-!
# How commands end

Converting and validating both compile the rules first.  A refused rule list ends them before
anything is printed.  After that only one thing can fail: converting, if none of the texts is a
query.  What is printed is known before the first line of it, so a command that fails prints nothing.

* `convert_of_refused`, `convert_of_compiled`: converting with a refused and with a compiled list.
* `exitCode_convert_ne_zero_iff`, `exitCode_validate_ne_zero_iff`: when the commands fail.
* `ruleWarnings_convert`: what converting logs about the rules.
* `parse?_stdout_convert`: the JSON printed is that of the conversions.
* `convert_validate_outcome`: how the two commands end and what they leave behind.
-/

namespace DashQuery

/-- The problem of a rule table that an event reports. -/
def Log.Event.ruleWarning? : Event → Option Metric.Warning
  | ruleProblem w => some w
  | _ => none

namespace Converter

/-- Whether a text is converted depends on the text alone: no rule can make it fail. -/
theorem exists_convert_eq_ok_iff {c : Converter} {text : String} :
    (∃ r, c.convert text = .ok r) ↔ ∃ q, Query.parse text c.labels = .ok q := by
  rw [convert]
  cases Query.parse text c.labels with
  | error e => simp
  | ok q => simp

theorem convert?_eq_none_iff {c : Converter} {text : String} :
    c.convert? text = none ↔ ¬ ∃ q, Query.parse text c.labels = .ok q := by
  rw [← exists_convert_eq_ok_iff, convert?]
  cases c.convert text with
  | error e => simp [Except.toOption]
  | ok r => simp [Except.toOption]

/-- Nothing is converted exactly if none of the texts is a query. -/
theorem filterMap_convert?_eq_nil_iff {c : Converter} {texts : List String} :
    texts.filterMap c.convert? = [] ↔ ¬ ∃ text ∈ texts, ∃ q, Query.parse text c.labels = .ok q := by
  rw [List.filterMap_eq_nil_iff]
  simp only [convert?_eq_none_iff, not_exists, not_and]

/-- A text is not reported as a problem of the rules. -/
theorem filterMap_ruleWarning?_reported (c : Converter) (text : String) :
    (c.reported text).filterMap Log.Event.ruleWarning? = [] := by
  rw [reported]
  cases Query.parse text c.labels with
  | error e => rfl
  | ok q => rfl

end Converter

namespace Command

variable {settings : Settings} {queries : List String} {json : Bool} {table : Metric.RuleTable}
  {e : Metric.InvalidPattern}

/-! ## Outcomes -/

namespace Outcome

variable {lines : List String} {events : List Log.Event} {failure : Failure}

@[simp] theorem exitCode_success : (success lines events).exitCode = 0 := rfl

@[simp] theorem exitCode_failed : (failed failure events).exitCode = failure.exitCode := rfl

@[simp] theorem stdout_failed : (failed failure events).stdout = "" := rfl

end Outcome

/-- No failure passes for a success. -/
theorem Failure.exitCode_ne_zero (f : Failure) : f.exitCode ≠ 0 := by
  cases f <;> simp [exitCode]

/-! ## Converting -/

/-- What is reported of a rule table before the first query. -/
def tableEvents (table : Metric.RuleTable) (labels : Label.Table) : List Log.Event :=
  table.warnings.map .ruleProblem ++ [.tablesLoaded table.size labels.size]

/-- What is reported behind the last query, if some of the queries were not converted. -/
def closingEvents (converted queries : Nat) : List Log.Event :=
  if converted < queries then [.partlyConverted converted queries] else []

theorem convert_of_refused (h : Metric.RuleTable.compile settings.rules = .error e) :
    convert settings queries json = .failed .compiling [] := by
  rw [convert, Converter.ofSettings, h]

/-- Converting with a compiled rule list. -/
theorem convert_of_compiled (h : Metric.RuleTable.compile settings.rules = .ok table)
    {c : Converter} (hc : c = ⟨table, settings.labels⟩) :
    convert settings queries json =
      if queries.filterMap c.convert? = [] then
        .failed (.nothingConverted queries.length)
          (tableEvents table settings.labels ++ queries.flatMap c.reported)
      else
        .success (convertedLines json (queries.filterMap c.convert?))
          (tableEvents table settings.labels ++ queries.flatMap c.reported ++
            closingEvents (queries.filterMap c.convert?).length queries.length) := by
  subst hc
  rw [convert, Converter.ofSettings, h]
  dsimp only
  rw [Converter.results_convertAll, Converter.events_convertAll]
  simp only [List.isEmpty_iff]
  rfl

/-- **When converting fails.** -/
theorem exitCode_convert_ne_zero_iff :
    (convert settings queries json).exitCode ≠ 0 ↔
      (∃ e, Metric.RuleTable.compile settings.rules = .error e) ∨
        ¬ ∃ text ∈ queries, ∃ q, Query.parse text settings.labels = .ok q := by
  cases hrules : Metric.RuleTable.compile settings.rules with
  | error e =>
    rw [convert_of_refused hrules, Outcome.exitCode_failed]
    simp [Failure.exitCode_ne_zero]
  | ok table =>
    have hnone : queries.filterMap (Converter.convert? ⟨table, settings.labels⟩) = [] ↔
        ¬ ∃ text ∈ queries, ∃ q, Query.parse text settings.labels = .ok q :=
      Converter.filterMap_convert?_eq_nil_iff
    rw [convert_of_compiled hrules rfl, ← hnone]
    split
    · rename_i hnil
      simp [hnil, Failure.exitCode_ne_zero]
    · rename_i hsome
      simp [hsome]

theorem stdout_of_exitCode_convert_ne_zero (h : (convert settings queries json).exitCode ≠ 0) :
    (convert settings queries json).stdout = "" := by
  cases hrules : Metric.RuleTable.compile settings.rules with
  | error e => rw [convert_of_refused hrules, Outcome.stdout_failed]
  | ok table =>
    rw [convert_of_compiled hrules rfl] at h ⊢
    split
    · rfl
    · rename_i hsome
      rw [if_neg hsome, Outcome.exitCode_success] at h
      exact absurd rfl h

/-- What converting leaves behind if it succeeds. -/
theorem convert_of_exitCode_eq_zero (hrules : Metric.RuleTable.compile settings.rules = .ok table)
    {c : Converter} (hc : c = ⟨table, settings.labels⟩)
    (h : (convert settings queries json).exitCode = 0) :
    convert settings queries json =
      .success (convertedLines json (queries.filterMap c.convert?))
        (tableEvents table settings.labels ++ queries.flatMap c.reported ++
          closingEvents (queries.filterMap c.convert?).length queries.length) := by
  rw [convert_of_compiled hrules hc] at h ⊢
  split
  · rename_i hnil
    rw [if_pos hnil, Outcome.exitCode_failed] at h
    exact absurd h (Failure.exitCode_ne_zero _)
  · rfl

/-! ## What is printed and logged -/

/-- The values of conversions are shallow enough to be read back. -/
theorem isReadable_convertedValues (cs : List Converted) :
    Json.isReadable Json.maxDepth (.list (cs.map convertedValue)) = true := by
  have hall : ∀ n, Json.areReadable (n + 1) (cs.map convertedValue) = true := by
    intro n
    rw [Json.areReadable_iff]
    intro v hv
    obtain ⟨c, -, rfl⟩ := List.mem_map.1 hv
    rfl
  exact hall _

/-- **The JSON that is printed is read back as the conversions.** -/
theorem parse?_render_convertedValues (cs : List Converted) :
    Json.parse? (Json.render (.list (cs.map convertedValue)) ++ "\n").toList =
      some (.list (cs.map convertedValue)) := by
  have hbehind : ∀ c ∈ ['\n'], Json.isSpace c = true := List.forall_mem_singleton.2 rfl
  rw [Json.render, String.toList_append, String.toList_ofList]
  exact Json.parse?_renderAt (isReadable_convertedValues cs) 0 hbehind

/-- A run of `convert` that succeeds.  It prints the conversions of its queries in their order, as
lines or as one list in JSON.  Its log tells of the rule table, then of every query, and at the end
how many were converted if that is not all of them. -/
structure Converts (o : Outcome) (c : Converter) (queries : List String) (json : Bool) : Prop where
  printsLines : json = false →
    o.stdout = String.join ((queries.filterMap c.convert?).map fun r =>
      r.title ++ "\t" ++ r.promql ++ "\n")
  printsJson : json = true →
    o.stdout = Json.render (.list ((queries.filterMap c.convert?).map convertedValue)) ++ "\n" ∧
      Json.parse? o.stdout.toList =
        some (.list ((queries.filterMap c.convert?).map convertedValue))
  log : o.events.map Log.Event.record =
    c.rules.warnings.map (fun w => (.warn, "Metric type rules: " ++ w.message)) ++
      [(.debug, "Loaded " ++ Nat.repr c.rules.size ++ " metric type rules and " ++
        Nat.repr c.labels.size ++ " attribute mappings")] ++
      queries.flatMap c.log ++
      if (queries.filterMap c.convert?).length < queries.length then
        [(.warn, "Converted " ++ Nat.repr (queries.filterMap c.convert?).length ++ " of " ++
          Nat.repr queries.length ++ " queries")]
      else []

/-- **What a run of `convert` that succeeds leaves behind.** -/
theorem converts_of_exitCode_eq_zero (hrules : Metric.RuleTable.compile settings.rules = .ok table)
    (h : (convert settings queries json).exitCode = 0) :
    Converts (convert settings queries json) ⟨table, settings.labels⟩ queries json := by
  rw [convert_of_exitCode_eq_zero hrules rfl h]
  constructor
  · rintro rfl
    simp [Outcome.stdout, Outcome.success, convertedLines, convertedLine, Function.comp_def]
  · rintro rfl
    have hstdout : ∀ cs events, (Outcome.success (convertedLines true cs) events).stdout =
        Json.render (.list (cs.map convertedValue)) ++ "\n" := by
      intro cs events
      simp [Outcome.stdout, Outcome.success, convertedLines]
    rw [hstdout]
    exact ⟨rfl, parse?_render_convertedValues _⟩
  · rw [← Converter.events_convertAll]
    show List.map Log.Event.record (tableEvents _ _ ++ _ ++ closingEvents _ _) = _
    rw [List.map_append, List.map_append, Converter.map_record_convertAll, tableEvents,
      List.map_append, List.map_map, closingEvents]
    split
    · rfl
    · rfl

/-- **The problems of the rules that converting logs**, whether it succeeds or not. -/
theorem ruleWarnings_convert (hrules : Metric.RuleTable.compile settings.rules = .ok table) :
    (convert settings queries json).events.filterMap Log.Event.ruleWarning? = table.warnings := by
  have htable : (tableEvents table settings.labels).filterMap Log.Event.ruleWarning? =
      table.warnings := by
    simp [tableEvents, List.filterMap_map, Function.comp_def, Log.Event.ruleWarning?]
  have hqueries : ∀ c : Converter,
      (queries.flatMap c.reported).filterMap Log.Event.ruleWarning? = [] := by
    intro c
    simp [List.filterMap_flatMap, Converter.filterMap_ruleWarning?_reported]
  have hclosing : ∀ k n, (closingEvents k n).filterMap Log.Event.ruleWarning? = [] := by
    intro k n
    rw [closingEvents]
    split
    · rfl
    · rfl
  rw [convert_of_compiled hrules rfl]
  split
  · show List.filterMap _ (tableEvents _ _ ++ _) = _
    rw [List.filterMap_append, htable, hqueries, List.append_nil]
  · show List.filterMap _ (tableEvents _ _ ++ _ ++ closingEvents _ _) = _
    rw [List.filterMap_append, List.filterMap_append, htable, hqueries, hclosing,
      List.append_nil, List.append_nil]

/-! ## Validating -/

theorem validate_of_refused (h : Metric.RuleTable.compile settings.rules = .error e) :
    validate settings = .failed .validating [.validating] := by
  rw [validate, h]

theorem validate_of_compiled (h : Metric.RuleTable.compile settings.rules = .ok table) :
    validate settings = .success (table.warnings.map fun w => "warning: " ++ w.message)
      [.validating, .validated table.size settings.labels.size table.warnings.length] := by
  rw [validate, h]

/-- **When validating fails.** -/
theorem exitCode_validate_ne_zero_iff :
    (validate settings).exitCode ≠ 0 ↔
      ∃ e, Metric.RuleTable.compile settings.rules = .error e := by
  cases hrules : Metric.RuleTable.compile settings.rules with
  | error e =>
    rw [validate_of_refused hrules, Outcome.exitCode_failed]
    simp [Failure.exitCode_ne_zero]
  | ok table =>
    rw [validate_of_compiled hrules, Outcome.exitCode_success]
    simp

/-- **Validating prints the problems of the rules that converting logs.** -/
theorem lines_validate :
    (validate settings).lines =
      ((convert settings queries json).events.filterMap Log.Event.ruleWarning?).map
        fun w => "warning: " ++ w.message := by
  cases hrules : Metric.RuleTable.compile settings.rules with
  | error e =>
    rw [validate_of_refused hrules, convert_of_refused hrules]
    rfl
  | ok table =>
    rw [validate_of_compiled hrules, ruleWarnings_convert hrules]
    rfl

/-- **How converting and validating end.**  Converting fails exactly if the rule list is refused or
none of the texts is a query, and then it prints nothing; otherwise it prints the conversions of the
queries in their order and warns at the end if it left some out.  Validating fails exactly if the
rule list is refused; it prints the problems of the rules that converting logs, in the same order.
The rule list is refused exactly if one of its patterns is, and the error names the first one.  The
rules of a list that is not refused classify every name, and none of them can make a text fail. -/
theorem convert_validate_outcome (settings : Settings) (queries : List String) (json : Bool) :
    ((convert settings queries json).exitCode ≠ 0 ↔
        (∃ e, Metric.RuleTable.compile settings.rules = .error e) ∨
          ¬ ∃ text ∈ queries, ∃ q, Query.parse text settings.labels = .ok q) ∧
      ((convert settings queries json).exitCode ≠ 0 →
        (convert settings queries json).stdout = "") ∧
      ((convert settings queries json).exitCode = 0 →
        ∃ table, Metric.RuleTable.compile settings.rules = .ok table ∧
          Converts (convert settings queries json) ⟨table, settings.labels⟩ queries json) ∧
      ((validate settings).exitCode ≠ 0 ↔
        ∃ e, Metric.RuleTable.compile settings.rules = .error e) ∧
      (validate settings).lines =
        ((convert settings queries json).events.filterMap Log.Event.ruleWarning?).map
          (fun w => "warning: " ++ w.message) ∧
      ((∃ e, Metric.RuleTable.compile settings.rules = .error e) ↔
        ∃ rule ∈ settings.rules, Metric.IsRefused rule.pattern) ∧
      (∀ e, Metric.RuleTable.compile settings.rules = .error e ↔
        ∃ front rule back, settings.rules = front ++ rule :: back ∧
          (∀ r ∈ front, ¬ Metric.IsRefused r.pattern) ∧ Metric.IsRefused rule.pattern ∧
          e = ⟨rule.pattern⟩) ∧
      ∀ table, Metric.RuleTable.compile settings.rules = .ok table →
        (∀ name, table.classify name =
          ((settings.rules.find? (·.accepts name)).map Metric.Rule.kind).getD .gauge) ∧
        ∀ text, (∃ r, (Converter.mk table settings.labels).convert text = .ok r) ↔
          ∃ q, Query.parse text settings.labels = .ok q := by
  refine ⟨exitCode_convert_ne_zero_iff, stdout_of_exitCode_convert_ne_zero, fun hzero => ?_,
    exitCode_validate_ne_zero_iff, lines_validate, Metric.RuleTable.exists_compile_eq_error_iff,
    fun e => ?_, fun table htable => ⟨fun name => ?_, fun text => ?_⟩⟩
  · cases hrules : Metric.RuleTable.compile settings.rules with
    | error e => exact absurd hzero (exitCode_convert_ne_zero_iff.2 (Or.inl ⟨e, hrules⟩))
    | ok table => exact ⟨table, rfl, converts_of_exitCode_eq_zero hrules hzero⟩
  · rw [Metric.RuleTable.compile_eq_error_iff, Metric.compileRules_eq_error_iff]
  · rw [table.classify_eq, Metric.RuleTable.compile_rules htable]
  · exact Converter.exists_convert_eq_ok_iff

end Command

end DashQuery

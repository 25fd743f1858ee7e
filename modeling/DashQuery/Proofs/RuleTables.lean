import DashQuery.Metric.RuleTable

/-!
# Compiling and applying rule tables

A rule list is refused because of a pattern that begins with `^` and is no regular expression that
fits once the end anchor stands behind its text.  No other pattern can be wrong.  The error names
the first such pattern, and a list that is not refused classifies every name.

* `Matcher.ofPattern?_eq_none_iff`: which patterns are refused.
* `compileRules_eq_error_iff`: which rule lists are refused, and with which error.
* `RuleTable.exists_compile_eq_error_iff`: the same without the error.
* `RuleTable.classify_eq`: the kind of a name is that of the first rule that accepts it.
* `RuleTable.meaning_congr`: two lists mean the same if their first refused patterns are the same
  and so are, for every name, the kinds that their first rules give.
-/

namespace DashQuery.Metric

variable {pattern name : String} {rule : Rule} {rules : List Rule} {e : InvalidPattern}

/-! ## Patterns -/

/-- A pattern that is refused: it begins with `^`, and its text with a `$` behind it is no regular
expression or one that is too large. -/
def IsRefused (pattern : String) : Prop :=
  pattern.toList.head? = some '^' ∧
    ∀ r, Pattern.Regexp.parse? (pattern.toList ++ ['$']) = some r → r.fits = false

theorem Matcher.anchored?_eq_none_iff {cs : List Char} :
    anchored? cs = none ↔
      ∀ r, Pattern.Regexp.parse? (cs ++ ['$']) = some r → r.fits = false := by
  rw [anchored?, Option.filter_eq_none_iff]
  simp only [Bool.not_eq_true]

/-- **Which patterns are refused.** -/
theorem Matcher.ofPattern?_eq_none_iff : ofPattern? pattern = none ↔ IsRefused pattern := by
  unfold ofPattern? IsRefused
  by_cases hdefault : pattern = defaultPattern
  · rw [if_pos hdefault, hdefault]
    simp [defaultPattern]
  · rw [if_neg hdefault]
    split
    · rename_i rest hcaret
      rw [Option.map_eq_none_iff, anchored?_eq_none_iff, hcaret]
      simp
    · rename_i hplain
      have hhead : pattern.toList.head? ≠ some '^' := by
        intro hhead
        obtain ⟨rest, hrest⟩ := List.head?_eq_some_iff.1 hhead
        exact hplain rest hrest
      simp [hhead]

theorem Matcher.isNone_ofPattern?_iff : (ofPattern? pattern).isNone = true ↔ IsRefused pattern := by
  rw [Option.isNone_iff_eq_none, ofPattern?_eq_none_iff]

/-! ## Rule lists -/

theorem Rule.compile_eq_error_iff :
    rule.compile = .error e ↔ IsRefused rule.pattern ∧ e = ⟨rule.pattern⟩ := by
  rw [← Matcher.ofPattern?_eq_none_iff, compile]
  split
  · rename_i m hm
    simp [hm]
  · rename_i hnone
    simp [hnone, eq_comm]

/-- A rule that has been compiled is not refused. -/
theorem CompiledRule.not_isRefused (c : CompiledRule) : ¬ IsRefused c.rule.pattern := by
  rw [← Matcher.ofPattern?_eq_none_iff, c.ofPattern]
  simp

/-- The error of a rule list is that of the first rule without a test. -/
theorem compileRules_eq_error_iff_find? :
    compileRules rules = .error e ↔
      ∃ rule, rules.find? (fun r => (Matcher.ofPattern? r.pattern).isNone) = some rule ∧
        e = ⟨rule.pattern⟩ := by
  induction rules with
  | nil => simp [compileRules]
  | cons first rules ih =>
    rw [compileRules, List.find?_cons]
    cases hfirst : first.compile with
    | error e' =>
      obtain ⟨hrefused, rfl⟩ := Rule.compile_eq_error_iff.1 hfirst
      simp [Matcher.isNone_ofPattern?_iff.2 hrefused, eq_comm]
    | ok c =>
      have hkept : (Matcher.ofPattern? first.pattern).isNone = false := by
        rw [← Rule.compile_rule hfirst, c.ofPattern, Option.isNone_some]
      rw [hkept, ← ih]
      cases compileRules rules with
      | error e' => simp
      | ok cs => simp

/-- **Which rule lists are refused, and with which error.**  The error names the first pattern that
is refused. -/
theorem compileRules_eq_error_iff :
    compileRules rules = .error e ↔
      ∃ front rule back, rules = front ++ rule :: back ∧
        (∀ r ∈ front, ¬ IsRefused r.pattern) ∧ IsRefused rule.pattern ∧ e = ⟨rule.pattern⟩ := by
  rw [compileRules_eq_error_iff_find?]
  simp only [List.find?_eq_some_iff_append, Matcher.isNone_ofPattern?_iff, Bool.not_eq_true',
    ← Bool.not_eq_true]
  constructor
  · rintro ⟨rule, ⟨hrefused, front, back, rfl, hfront⟩, rfl⟩
    exact ⟨front, rule, back, rfl, hfront, hrefused, rfl⟩
  · rintro ⟨front, rule, back, rfl, hfront, hrefused, rfl⟩
    exact ⟨rule, ⟨hrefused, front, back, rfl, hfront⟩, rfl⟩

namespace RuleTable

variable {table : RuleTable}

/-- No rule of a table is refused. -/
theorem not_isRefused (table : RuleTable) (rule : Rule) (h : rule ∈ table.rules) :
    ¬ IsRefused rule.pattern := by
  obtain ⟨c, -, rfl⟩ := List.mem_map.1 h
  exact c.not_isRefused

theorem compile_eq_error_iff : compile rules = .error e ↔ compileRules rules = .error e := by
  rw [compile]
  cases compileRules rules with
  | error e' => simp [Except.map]
  | ok cs => simp [Except.map]

/-- **A rule list is refused exactly if one of its patterns is.** -/
theorem exists_compile_eq_error_iff :
    (∃ e, compile rules = .error e) ↔ ∃ rule ∈ rules, IsRefused rule.pattern := by
  constructor
  · rintro ⟨e, he⟩
    obtain ⟨front, rule, back, rfl, -, hrefused, -⟩ :=
      compileRules_eq_error_iff.1 (compile_eq_error_iff.1 he)
    exact ⟨rule, by simp, hrefused⟩
  · rintro ⟨rule, hmem, hrefused⟩
    cases htable : compile rules with
    | error e => exact ⟨e, rfl⟩
    | ok table =>
      rw [← compile_rules htable] at hmem
      exact absurd hrefused (table.not_isRefused rule hmem)

end RuleTable

/-! ## Classifying -/

/-- Whether a rule accepts a name. -/
def Rule.accepts (rule : Rule) (name : String) : Bool :=
  (Matcher.ofPattern? rule.pattern).any (·.accepts name.toList)

theorem CompiledRule.accepts_rule (c : CompiledRule) (name : String) :
    c.rule.accepts name = c.matcher.accepts name.toList := by
  rw [Rule.accepts, c.ofPattern, Option.any_some]

/-- **The kind of a name is that of the first rule that accepts it**, and gauge if none does. -/
theorem RuleTable.classify_eq (table : RuleTable) (name : String) :
    table.classify name =
      ((table.rules.find? (·.accepts name)).map Rule.kind).getD .gauge := by
  have hfind : table.rules.find? (·.accepts name) =
      (table.compiled.find? (·.matcher.accepts name.toList)).map (·.rule) := by
    rw [RuleTable.rules, List.find?_map]
    congr 2
    funext c
    exact c.accepts_rule name
  rw [classify, hfind]
  cases table.compiled.find? (·.matcher.accepts name.toList) with
  | none => rfl
  | some c => rfl

/-! ## What a rule list means -/

/-- The first pattern of a rule list that is refused. -/
def firstRefused? (rules : List Rule) : Option String :=
  (rules.find? fun r => (Matcher.ofPattern? r.pattern).isNone).map Rule.pattern

/-- The kind that a name gets from the first rule that accepts it. -/
def firstKind? (rules : List Rule) (name : String) : Option Kind :=
  (rules.find? (·.accepts name)).map Rule.kind

/-- What a rule list does: the error that it is refused with, or the kinds that it gives. -/
def RuleTable.meaning (rules : List Rule) : Except InvalidPattern (String → Kind) :=
  (compile rules).map classify

section Meaning

variable {front back rules' : List Rule}

theorem firstRefused?_append :
    firstRefused? (front ++ back) = (firstRefused? front).or (firstRefused? back) := by
  rw [firstRefused?, List.find?_append, Option.map_or]
  rfl

theorem firstKind?_append :
    firstKind? (front ++ back) name = (firstKind? front name).or (firstKind? back name) := by
  rw [firstKind?, List.find?_append, Option.map_or]
  rfl

theorem firstKind?_cons :
    firstKind? (rule :: rules) name =
      if rule.accepts name then some rule.kind else firstKind? rules name := by
  rw [firstKind?, List.find?_cons]
  cases rule.accepts name <;> rfl

theorem firstRefused?_eq_none_iff :
    firstRefused? rules = none ↔ ∀ rule ∈ rules, ¬ IsRefused rule.pattern := by
  simp only [firstRefused?, Option.map_eq_none_iff, List.find?_eq_none,
    Matcher.isNone_ofPattern?_iff]

namespace RuleTable

/-- A rule list is refused for its first refused pattern.  Without one it gives a name the kind of
the first rule that accepts it, and gauge if none does. -/
theorem meaning_eq (rules : List Rule) :
    meaning rules =
      match firstRefused? rules with
      | some pattern => .error ⟨pattern⟩
      | none => .ok fun name => (firstKind? rules name).getD .gauge := by
  cases htable : compile rules with
  | error e =>
    obtain ⟨rule, hrule, rfl⟩ :=
      compileRules_eq_error_iff_find?.1 (compile_eq_error_iff.1 htable)
    simp [meaning, htable, firstRefused?, hrule, Except.map]
  | ok table =>
    have hnone : firstRefused? rules = none := by
      rw [firstRefused?_eq_none_iff, ← compile_rules htable]
      exact table.not_isRefused
    rw [meaning, htable, hnone]
    exact congrArg Except.ok (funext fun name => by rw [classify_eq, compile_rules htable]; rfl)

theorem meaning_congr (hrefused : firstRefused? rules = firstRefused? rules')
    (hkind : ∀ name, firstKind? rules name = firstKind? rules' name) :
    meaning rules = meaning rules' := by
  simp only [meaning_eq, hrefused, hkind]

/-- The rules of a table mean what the table does. -/
theorem meaning_rules (table : RuleTable) : meaning table.rules = .ok table.classify := by
  rw [meaning_eq, firstRefused?_eq_none_iff.2 table.not_isRefused]
  exact congrArg Except.ok (funext fun name => (table.classify_eq name).symm)

end RuleTable

end Meaning

end DashQuery.Metric

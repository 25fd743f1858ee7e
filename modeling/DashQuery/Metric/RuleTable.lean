import DashQuery.Metric.Rule

/-!
# Rule tables

A rule table is a list of rules with their tests.  The first rule whose test a name passes gives
its kind, and a name that passes none is a gauge.

* `compile_rules`: compiling keeps the rules and their order.
-/

namespace DashQuery.Metric

/-- A rule with the test that its pattern stands for. -/
structure CompiledRule where
  rule : Rule
  matcher : Matcher
  ofPattern : Matcher.ofPattern? rule.pattern = some matcher

/-- A list of rules whose patterns are all well formed. -/
structure RuleTable where
  compiled : List CompiledRule

/-- The malformed pattern of a rule list. -/
structure InvalidPattern where
  pattern : String
  deriving DecidableEq, Repr

/-- A rule with its test. -/
def Rule.compile (rule : Rule) : Except InvalidPattern CompiledRule :=
  match h : Matcher.ofPattern? rule.pattern with
  | some matcher => .ok ⟨rule, matcher, h⟩
  | none => .error ⟨rule.pattern⟩

/-- Rules with their tests, in the order given; the first malformed pattern is the error. -/
def compileRules : List Rule → Except InvalidPattern (List CompiledRule)
  | [] => .ok []
  | rule :: rules =>
    match rule.compile, compileRules rules with
    | .ok c, .ok cs => .ok (c :: cs)
    | .error e, _ => .error e
    | _, .error e => .error e

namespace RuleTable

/-- The table of a list of rules. -/
def compile (rules : List Rule) : Except InvalidPattern RuleTable :=
  (compileRules rules).map RuleTable.mk

/-- The rules of a table, in order. -/
def rules (table : RuleTable) : List Rule := table.compiled.map (·.rule)

/-- The count of rules. -/
def size (table : RuleTable) : Nat := table.compiled.length

/-- The kind of a metric by its name. -/
def classify (table : RuleTable) (name : String) : Kind :=
  match table.compiled.find? (·.matcher.accepts name.toList) with
  | some c => c.rule.kind
  | none => .gauge

end RuleTable

/-- A compiled rule keeps the rule it was compiled from. -/
theorem Rule.compile_rule {rule : Rule} {c : CompiledRule} (h : rule.compile = .ok c) :
    c.rule = rule := by
  unfold Rule.compile at h
  split at h
  · cases h; rfl
  · cases h

theorem compileRules_rule {rules : List Rule} {cs : List CompiledRule}
    (h : compileRules rules = .ok cs) : cs.map (·.rule) = rules := by
  induction rules generalizing cs with
  | nil => cases h; rfl
  | cons rule rules ih =>
    rw [compileRules] at h
    split at h
    · next hc hcs =>
      cases h
      simp [Rule.compile_rule hc, ih hcs]
    · cases h
    · cases h

/-- Compiling keeps the rules and their order. -/
theorem RuleTable.compile_rules {rules : List Rule} {table : RuleTable}
    (h : RuleTable.compile rules = .ok table) : table.rules = rules := by
  unfold RuleTable.compile at h
  cases hc : compileRules rules with
  | error e => simp [hc, Except.map] at h
  | ok cs =>
    simp only [hc, Except.map, Except.ok.injEq] at h
    subst h
    exact compileRules_rule hc

/-! ## Problems of a table -/

/-- A problem of a rule table that does not keep it from classifying. -/
inductive Warning where
  /-- No rule is a default. -/
  | noDefault
  /-- The only default, at a position counted from one, leaves `later` rules without effect. -/
  | shadowing (position later : Nat)
  /-- Of several defaults only the first one, at a position counted from one, has an effect. -/
  | repeatedDefault (count position : Nat)
  /-- One alternative of the pattern is empty. -/
  | emptyAlternative (pattern : String)
  deriving DecidableEq, Repr

/-- The wording of a warning. -/
def Warning.message : Warning → String
  | noDefault => "no default '*' rule; unmatched metrics fall back to gauge"
  | shadowing position later =>
    "default '*' rule at position " ++ Nat.repr position ++ " shadows " ++ Nat.repr later ++
      " later rule(s)"
  | repeatedDefault count position =>
    Nat.repr count ++ " default '*' rules; only the one at position " ++ Nat.repr position ++
      " is reachable"
  | emptyAlternative pattern =>
    "rule '" ++ pattern ++ "' contains an empty alternative and matches every metric"

namespace RuleTable

/-- The positions of the default rules, counted from one. -/
def defaultPositions (table : RuleTable) : List Nat :=
  (table.compiled.zipIdx 1).filterMap fun (c, position) =>
    if c.matcher = .everything then some position else none

/-- The warning about the default rules, if there is one. -/
def defaultWarning? (table : RuleTable) : Option Warning :=
  match table.defaultPositions with
  | [] => some .noDefault
  | [position] =>
    if position = table.size then none
    else some (.shadowing position (table.size - position))
  | position :: others => some (.repeatedDefault (others.length + 1) position)

/-- The problems of a table: that of its defaults first, then those of its rules in order. -/
def warnings (table : RuleTable) : List Warning :=
  table.defaultWarning?.toList ++
    (table.compiled.filter (·.matcher.hasEmptyAlternative)).map fun c =>
      .emptyAlternative c.rule.pattern

end RuleTable

end DashQuery.Metric

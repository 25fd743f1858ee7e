import DashQuery.Proofs.Alternatives

/-!
# What the warnings of a rule table mean

A rule table should end with its only default rule, and no list of alternatives should have an empty
one.  The warnings of a table say how it departs from this.  They are about positions and patterns;
what they mean for the names that are classified is proved here.

* `IsFirstDefault`: where the first default of a rule list stands.
* `RuleTable.meaning_take`: behind a default no rule counts.
* `RuleTable.defaultWarning?_of_forall`, `RuleTable.defaultWarning?_of_isFirstDefault`: which
  warning about its defaults a table has.
* `RuleTable.emptyAlternative_mem_warnings_iff`: which patterns are reported for an empty
  alternative.
* `warnings_sound_and_complete`: what a table without warnings and each of its warnings mean.
-/

namespace DashQuery.Metric

variable {rule : Rule} {rules : List Rule} {name pattern : String}

/-! ## Defaults -/

/-- Whether a rule is a default. -/
def Rule.IsDefault (rule : Rule) : Prop := rule.pattern = defaultPattern

instance (rule : Rule) : Decidable rule.IsDefault := inferInstanceAs (Decidable (_ = _))

/-- Only the default pattern stands for the test that every name passes. -/
theorem Matcher.ofPattern?_eq_everything_iff :
    ofPattern? pattern = some .everything ↔ pattern = defaultPattern := by
  unfold ofPattern?
  split
  · rename_i hpattern
    simp [hpattern]
  · rename_i hpattern
    split <;> simp [hpattern]

theorem CompiledRule.matcher_eq_everything_iff (c : CompiledRule) :
    c.matcher = .everything ↔ c.rule.IsDefault := by
  rw [Rule.IsDefault, ← Matcher.ofPattern?_eq_everything_iff, c.ofPattern, Option.some_inj]

/-- A default accepts every name. -/
theorem Rule.IsDefault.accepts (h : rule.IsDefault) (name : String) : rule.accepts name = true := by
  rw [Rule.accepts, Matcher.ofPattern?_eq_everything_iff.2 h]
  rfl

/-- The positions of the defaults of a rule list whose first rule stands at `start`. -/
def defaultsFrom (start : Nat) : List Rule → List Nat
  | [] => []
  | rule :: rules =>
    if rule.IsDefault then start :: defaultsFrom (start + 1) rules
    else defaultsFrom (start + 1) rules

theorem RuleTable.defaultPositions_eq (table : RuleTable) :
    table.defaultPositions = defaultsFrom 1 table.rules := by
  obtain ⟨compiled⟩ := table
  unfold defaultPositions rules
  dsimp only
  generalize 1 = start
  induction compiled generalizing start with
  | nil => rfl
  | cons c compiled ih =>
    rw [List.zipIdx_cons, List.filterMap_cons, List.map_cons, defaultsFrom, ih]
    by_cases h : c.rule.IsDefault
    · rw [if_pos h, if_pos (c.matcher_eq_everything_iff.2 h)]
    · rw [if_neg h, if_neg (fun hc => h (c.matcher_eq_everything_iff.1 hc))]

theorem defaultsFrom_eq_nil_iff {start : Nat} :
    defaultsFrom start rules = [] ↔ ∀ rule ∈ rules, ¬ rule.IsDefault := by
  induction rules generalizing start with
  | nil => simp [defaultsFrom]
  | cons rule rules ih =>
    rw [defaultsFrom, List.forall_mem_cons, ← @ih (start + 1)]
    split
    · rename_i h
      simp [h]
    · rename_i h
      simp [h]

/-- The rule list has its first default behind the rules `front` and in front of the rules
`back`. -/
structure IsFirstDefault (rules front : List Rule) (default : Rule) (back : List Rule) : Prop where
  eq_append : rules = front ++ default :: back
  isDefault : default.IsDefault
  front : ∀ rule ∈ front, ¬ rule.IsDefault

theorem defaultsFrom_eq_cons_iff {start position : Nat} {others : List Nat} :
    defaultsFrom start rules = position :: others ↔
      ∃ front default back, IsFirstDefault rules front default back ∧
        position = start + front.length ∧ others = defaultsFrom (position + 1) back := by
  induction rules generalizing start with
  | nil =>
    refine ⟨fun h => (nomatch h), ?_⟩
    rintro ⟨front, default, back, h, -⟩
    exact absurd h.eq_append (by simp)
  | cons rule rules ih =>
    rw [defaultsFrom]
    split
    · rename_i hrule
      constructor
      · intro h
        cases h
        exact ⟨[], rule, rules, ⟨rfl, hrule, List.forall_mem_nil _⟩, rfl, rfl⟩
      · rintro ⟨front, default, back, h, rfl, rfl⟩
        cases front with
        | nil =>
          obtain ⟨rfl, rfl⟩ := List.cons.inj h.eq_append
          rfl
        | cons first front =>
          obtain ⟨rfl, -⟩ := List.cons.inj h.eq_append
          exact absurd hrule (h.front _ List.mem_cons_self)
    · rename_i hrule
      rw [ih]
      constructor
      · rintro ⟨front, default, back, h, rfl, rfl⟩
        refine ⟨rule :: front, default, back, ⟨?_, h.isDefault, ?_⟩, ?_, rfl⟩
        · rw [h.eq_append, List.cons_append]
        · exact List.forall_mem_cons.2 ⟨hrule, h.front⟩
        · rw [List.length_cons]
          omega
      · rintro ⟨front, default, back, h, rfl, rfl⟩
        cases front with
        | nil =>
          obtain ⟨rfl, -⟩ := List.cons.inj h.eq_append
          exact absurd h.isDefault hrule
        | cons first front =>
          obtain ⟨rfl, hrules⟩ := List.cons.inj h.eq_append
          refine ⟨front, default, back, ⟨hrules, h.isDefault, ?_⟩, ?_, rfl⟩
          · exact (List.forall_mem_cons.1 h.front).2
          · rw [List.length_cons]
            omega

theorem length_defaultsFrom (start : Nat) :
    (defaultsFrom start rules).length = rules.countP (·.IsDefault) := by
  induction rules generalizing start with
  | nil => rfl
  | cons rule rules ih =>
    rw [defaultsFrom, List.countP_cons]
    split
    · rename_i h
      simp [h, ih]
    · rename_i h
      simp [h, ih]

/-! ## Behind a default -/

section FirstDefault

variable {front back : List Rule} {default : Rule}

theorem exists_isFirstDefault (h : ∃ rule ∈ rules, rule.IsDefault) :
    ∃ front default back, IsFirstDefault rules front default back := by
  cases hpositions : defaultsFrom 1 rules with
  | nil =>
    obtain ⟨rule, hmem, hrule⟩ := h
    exact absurd hrule (defaultsFrom_eq_nil_iff.1 hpositions rule hmem)
  | cons position others =>
    obtain ⟨front, default, back, h, -, -⟩ := defaultsFrom_eq_cons_iff.1 hpositions
    exact ⟨front, default, back, h⟩

theorem IsFirstDefault.mem (h : IsFirstDefault rules front default back) : default ∈ rules := by
  rw [h.eq_append]
  exact List.mem_append_right _ List.mem_cons_self

/-- No rule behind a default gives any name its kind. -/
theorem IsFirstDefault.firstKind? (h : IsFirstDefault rules front default back) (name : String) :
    firstKind? rules name = firstKind? (front ++ [default]) name := by
  rw [h.eq_append, firstKind?_append, firstKind?_append, firstKind?_cons, firstKind?_cons,
    if_pos (h.isDefault.accepts name), if_pos (h.isDefault.accepts name)]

/-- **Behind a default no rule counts.**  The rules up to the first default mean what the table
does. -/
theorem RuleTable.meaning_take {table : RuleTable}
    (h : IsFirstDefault table.rules front default back) :
    meaning (table.rules.take (front.length + 1)) = .ok table.classify := by
  have htake : table.rules.take (front.length + 1) = front ++ [default] := by
    rw [h.eq_append, List.append_cons, List.take_left' (by simp)]
  have hkept : ∀ rule ∈ front ++ [default], ¬ IsRefused rule.pattern := by
    intro rule hrule
    rw [← htake] at hrule
    exact table.not_isRefused rule (List.mem_of_mem_take hrule)
  rw [htake, ← meaning_rules]
  refine meaning_congr ?_ fun name => (h.firstKind? name).symm
  rw [firstRefused?_eq_none_iff.2 hkept, firstRefused?_eq_none_iff.2 table.not_isRefused]

end FirstDefault

/-! ## Empty alternatives -/

/-- A rule with alternatives accepts the empty name exactly if one of them is empty. -/
theorem Rule.accepts_empty_iff (h : IsList rule.pattern) :
    rule.accepts "" = true ↔ "" ∈ Text.pieces '|' rule.pattern := by
  rw [Rule.accepts_of_isList h, List.any_eq_true]
  simp [Text.hasInfix]

/-- An empty alternative accepts every name. -/
theorem Rule.accepts_of_empty_mem (h : IsList rule.pattern)
    (hempty : "" ∈ Text.pieces '|' rule.pattern) (name : String) : rule.accepts name = true := by
  rw [Rule.accepts_of_isList h, List.any_eq_true]
  exact ⟨"", hempty, Text.hasInfix_iff.2 ⟨[], name.toList, rfl⟩⟩

theorem CompiledRule.hasEmptyAlternative_iff (c : CompiledRule) :
    c.matcher.hasEmptyAlternative = true ↔
      IsList c.rule.pattern ∧ "" ∈ Text.pieces '|' c.rule.pattern := by
  have hmatcher := c.ofPattern
  by_cases hlist : IsList c.rule.pattern
  · rw [Matcher.ofPattern?_of_isList hlist, Option.some_inj] at hmatcher
    rw [← hmatcher, Matcher.hasEmptyAlternative, ← Text.map_toList_pieces]
    simp [hlist]
  · have hany : ∀ alternatives, c.matcher ≠ .anyOf alternatives := by
      intro alternatives hc
      rw [hc] at hmatcher
      exact hlist (Matcher.isList_of_ofPattern? hmatcher)
    cases hc : c.matcher with
    | anyOf alternatives => exact absurd hc (hany alternatives)
    | _ => simp [Matcher.hasEmptyAlternative, hlist]

/-! ## Which warnings there are -/

namespace RuleTable

variable {table : RuleTable} {front back : List Rule} {default : Rule}

theorem defaultWarning?_of_forall (h : ∀ rule ∈ table.rules, ¬ rule.IsDefault) :
    table.defaultWarning? = some .noDefault := by
  rw [defaultWarning?, defaultPositions_eq, defaultsFrom_eq_nil_iff.2 h]

/-- **The warning about the defaults of a table.**  Behind the first default there should be no
rule. -/
theorem defaultWarning?_of_isFirstDefault (h : IsFirstDefault table.rules front default back) :
    table.defaultWarning? =
      if back = [] then none
      else if back.countP (·.IsDefault) = 0 then
        some (.shadowing (front.length + 1) back.length)
      else
        some (.repeatedDefault (back.countP (·.IsDefault) + 1) (front.length + 1)) := by
  have hpositions : table.defaultPositions =
      (front.length + 1) :: defaultsFrom (front.length + 2) back := by
    rw [defaultPositions_eq]
    exact defaultsFrom_eq_cons_iff.2 ⟨front, default, back, h, Nat.add_comm _ _, rfl⟩
  have hsize : table.size = front.length + (back.length + 1) := by
    rw [size, ← List.length_map (f := CompiledRule.rule), ← rules, h.eq_append, List.length_append,
      List.length_cons]
  rw [defaultWarning?, hpositions, hsize, ← length_defaultsFrom (front.length + 2)]
  cases hothers : defaultsFrom (front.length + 2) back with
  | nil =>
    cases back with
    | nil => simp
    | cons rule back => simp; omega
  | cons position others =>
    have hne : back ≠ [] := by
      rintro rfl
      cases hothers
    simp [hne]

theorem mem_warnings_iff {w : Warning} :
    w ∈ table.warnings ↔
      table.defaultWarning? = some w ∨
        ∃ rule ∈ table.rules, IsList rule.pattern ∧ "" ∈ Text.pieces '|' rule.pattern ∧
          .emptyAlternative rule.pattern = w := by
  rw [warnings, List.mem_append, Option.mem_toList, List.mem_map]
  refine or_congr_right ?_
  simp only [List.mem_filter, CompiledRule.hasEmptyAlternative_iff, rules, List.mem_map]
  constructor
  · rintro ⟨c, ⟨hc, hlist, hempty⟩, hw⟩
    exact ⟨c.rule, ⟨c, hc, rfl⟩, hlist, hempty, hw⟩
  · rintro ⟨_, ⟨c, hc, rfl⟩, hlist, hempty, hw⟩
    exact ⟨c, ⟨hc, hlist, hempty⟩, hw⟩

/-- A table has no warning about its defaults exactly if its last rule is the only default. -/
theorem defaultWarning?_eq_none_iff :
    table.defaultWarning? = none ↔
      ∃ front default, IsFirstDefault table.rules front default [] := by
  constructor
  · intro hnone
    by_cases hdefault : ∃ rule ∈ table.rules, rule.IsDefault
    · obtain ⟨front, default, back, h⟩ := exists_isFirstDefault hdefault
      rw [defaultWarning?_of_isFirstDefault h] at hnone
      split at hnone
      · rename_i hback
        exact ⟨front, default, hback ▸ h⟩
      · split at hnone <;> cases hnone
    · have hall : ∀ rule ∈ table.rules, ¬ rule.IsDefault := by simpa using hdefault
      rw [defaultWarning?_of_forall hall] at hnone
      cases hnone
  · rintro ⟨front, default, h⟩
    rw [defaultWarning?_of_isFirstDefault h, if_pos rfl]

theorem warnings_eq_nil_iff :
    table.warnings = [] ↔
      (∃ front default, IsFirstDefault table.rules front default []) ∧
        ∀ rule ∈ table.rules, IsList rule.pattern → "" ∉ Text.pieces '|' rule.pattern := by
  rw [← defaultWarning?_eq_none_iff, List.eq_nil_iff_forall_not_mem]
  simp only [mem_warnings_iff, not_or, not_exists, not_and]
  constructor
  · intro h
    refine ⟨Option.eq_none_iff_forall_ne_some.2 fun w => (h w).1, fun rule hrule hlist hempty => ?_⟩
    exact (h (.emptyAlternative rule.pattern)).2 rule hrule hlist hempty rfl
  · rintro ⟨hnone, hempty⟩ w
    refine ⟨by simp [hnone], fun rule hrule hlist hmem => absurd hmem (hempty rule hrule hlist)⟩

/-- A default that is reported at a position, as the only one or as the first of several, stands
there, and no default stands in front of it. -/
theorem exists_isFirstDefault_of_warning {position : Nat}
    (h : (∃ later, .shadowing position later ∈ table.warnings) ∨
      ∃ count, .repeatedDefault count position ∈ table.warnings) :
    ∃ front default back, IsFirstDefault table.rules front default back ∧
      position = front.length + 1 := by
  by_cases hdefault : ∃ rule ∈ table.rules, rule.IsDefault
  · obtain ⟨front, default, back, hfirst⟩ := exists_isFirstDefault hdefault
    refine ⟨front, default, back, hfirst, ?_⟩
    simp only [mem_warnings_iff, defaultWarning?_of_isFirstDefault hfirst, reduceCtorEq, and_false,
      exists_false, or_false] at h
    obtain ⟨later, h⟩ | ⟨count, h⟩ := h
    all_goals
      split at h
      · cases h
      · split at h <;> cases h
        rfl
  · have hall : ∀ rule ∈ table.rules, ¬ rule.IsDefault := by simpa using hdefault
    simp [mem_warnings_iff, defaultWarning?_of_forall hall] at h

theorem emptyAlternative_mem_warnings_iff :
    .emptyAlternative pattern ∈ table.warnings ↔
      (∃ rule ∈ table.rules, rule.pattern = pattern) ∧ IsList pattern ∧
        "" ∈ Text.pieces '|' pattern := by
  have hnone : table.defaultWarning? ≠ some (.emptyAlternative pattern) := by
    rw [defaultWarning?]
    split
    · simp
    · split <;> simp
    · simp
  rw [mem_warnings_iff, or_iff_right hnone]
  constructor
  · rintro ⟨rule, hrule, hlist, hempty, heq⟩
    cases heq
    exact ⟨⟨rule, hrule, rfl⟩, hlist, hempty⟩
  · rintro ⟨⟨rule, hrule, rfl⟩, hlist, hempty⟩
    exact ⟨rule, hrule, hlist, hempty, rfl⟩

end RuleTable

/-- **What the warnings of a rule table mean.**  There is none exactly if the last rule is the only
default and no list of alternatives has an empty one; then every name is accepted by a rule, and the
empty name by no list of alternatives.  If a default is reported at a position, as shadowing later
rules or as the first of several, then the first default stands there, and the rules up to it can be
compiled and classify every name as the table does.  A pattern that is reported to match every
metric is that of a rule and accepts every name, and the lists of alternatives that accept the empty
name are all reported. -/
theorem warnings_sound_and_complete (table : RuleTable) :
    (table.warnings = [] ↔
      (∃ front last, table.rules = front ++ [last] ∧ last.IsDefault ∧
          ∀ rule ∈ front, ¬ rule.IsDefault) ∧
        ∀ rule ∈ table.rules, IsList rule.pattern → "" ∉ Text.pieces '|' rule.pattern) ∧
      (table.warnings = [] →
        (∀ name, ∃ rule ∈ table.rules, rule.accepts name = true) ∧
          ∀ rule ∈ table.rules, IsList rule.pattern → rule.accepts "" = false) ∧
      (∀ position,
        (∃ later, .shadowing position later ∈ table.warnings) ∨
            (∃ count, .repeatedDefault count position ∈ table.warnings) →
          (∃ front default back, IsFirstDefault table.rules front default back ∧
              position = front.length + 1) ∧
            RuleTable.meaning (table.rules.take position) = .ok table.classify) ∧
      (∀ pattern, .emptyAlternative pattern ∈ table.warnings →
        (∃ rule ∈ table.rules, rule.pattern = pattern) ∧
          ∀ rule ∈ table.rules, rule.pattern = pattern → ∀ name, rule.accepts name = true) ∧
      ∀ rule ∈ table.rules, IsList rule.pattern → rule.accepts "" = true →
        .emptyAlternative rule.pattern ∈ table.warnings := by
  refine ⟨?_, fun hnil => ?_, fun position hposition => ?_, fun pattern hpattern => ?_,
    fun rule hrule hlist haccepts => ?_⟩
  · rw [RuleTable.warnings_eq_nil_iff]
    refine and_congr_left fun _ => exists_congr fun front => exists_congr fun last => ?_
    exact ⟨fun h => ⟨h.eq_append, h.isDefault, h.front⟩, fun ⟨heq, hlast, h⟩ => ⟨heq, hlast, h⟩⟩
  · obtain ⟨⟨front, default, hfirst⟩, hempty⟩ := RuleTable.warnings_eq_nil_iff.1 hnil
    refine ⟨fun name => ⟨default, hfirst.mem, hfirst.isDefault.accepts name⟩,
      fun rule hrule hlist => ?_⟩
    rw [← Bool.not_eq_true, Rule.accepts_empty_iff hlist]
    exact hempty rule hrule hlist
  · obtain ⟨front, default, back, hfirst, rfl⟩ :=
      RuleTable.exists_isFirstDefault_of_warning hposition
    exact ⟨⟨front, default, back, hfirst, rfl⟩, RuleTable.meaning_take hfirst⟩
  · obtain ⟨hmem, hlist, hempty⟩ := RuleTable.emptyAlternative_mem_warnings_iff.1 hpattern
    refine ⟨hmem, ?_⟩
    rintro rule - rfl name
    exact Rule.accepts_of_empty_mem hlist hempty name
  · exact RuleTable.emptyAlternative_mem_warnings_iff.2
      ⟨⟨rule, hrule, rfl⟩, hlist, (Rule.accepts_empty_iff hlist).1 haccepts⟩

end DashQuery.Metric

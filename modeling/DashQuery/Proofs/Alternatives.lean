import DashQuery.Proofs.RuleTables
import DashQuery.Proofs.Scanning

/-!
# Rules with alternatives

A pattern that is neither the default nor begins with `^` is a list of alternatives between bars,
and its rule accepts the names that contain one of them.  An alternative that could stand as such a
pattern by itself has no bar in it, so a rule of its own accepts the names that contain it.  Hence a
rule may be split into one rule for each alternative, and the order of the alternatives does not
matter.

* `Rule.accepts_of_isList`: what a rule with alternatives accepts.
* `firstKind?_alternatives`: rules for the alternatives together give what the one rule gives.
* `meaning_split`: a rule list means the same after a rule is split or its alternatives are
  permuted.
-/

namespace DashQuery.Metric

variable {pattern name : String} {kind : Kind} {rule : Rule} {rules front back : List Rule}
  {ps : List String}

/-! ## Lists of alternatives -/

/-- A pattern that is a list of alternatives: neither the default nor a regular expression. -/
def IsList (pattern : String) : Prop :=
  pattern ≠ defaultPattern ∧ pattern.toList.head? ≠ some '^'

instance (pattern : String) : Decidable (IsList pattern) := inferInstanceAs (Decidable (_ ∧ _))

theorem Matcher.ofPattern?_of_isList (h : IsList pattern) :
    ofPattern? pattern = some (.anyOf (pattern.toList.splitOn '|')) := by
  unfold ofPattern?
  rw [if_neg h.1]
  split
  · rename_i rest hcaret
    exact absurd (congrArg List.head? hcaret) h.2
  · rfl

theorem Matcher.isList_of_ofPattern? {alternatives : List (List Char)}
    (h : ofPattern? pattern = some (.anyOf alternatives)) : IsList pattern := by
  unfold ofPattern? at h
  split at h
  · cases h
  · rename_i hdefault
    split at h
    · obtain ⟨r, -, hr⟩ := Option.map_eq_some_iff.1 h
      cases hr
    · rename_i hcaret
      refine ⟨hdefault, fun hhead => ?_⟩
      obtain ⟨rest, hrest⟩ := List.head?_eq_some_iff.1 hhead
      exact hcaret rest hrest

/-- A list of alternatives is never refused. -/
theorem not_isRefused_of_isList (h : IsList pattern) : ¬ IsRefused pattern :=
  fun hrefused => h.2 hrefused.1

/-- **What a rule with alternatives accepts**: the names that contain one of them. -/
theorem Rule.accepts_of_isList (h : IsList rule.pattern) (name : String) :
    rule.accepts name =
      (Text.pieces '|' rule.pattern).any fun p => Text.hasInfix p.toList name.toList := by
  rw [Rule.accepts, Matcher.ofPattern?_of_isList h, Option.any_some, Matcher.accepts,
    ← Text.map_toList_pieces, List.any_map]
  rfl

/-- A pattern is a list if each of its alternatives is one. -/
theorem isList_of_pieces (h : ∀ p ∈ Text.pieces '|' pattern, IsList p) : IsList pattern := by
  by_cases hbar : '|' ∈ pattern.toList
  · refine ⟨fun hdefault => ?_, fun hcaret => ?_⟩
    · rw [hdefault] at hbar
      exact absurd hbar (by decide)
    · -- the caret in front of the pattern is in front of its first alternative
      obtain ⟨first, rest, hpattern, hfirst⟩ := List.eq_append_cons_of_mem hbar
      have hmem : String.ofList first ∈ Text.pieces '|' pattern := by
        rw [Text.pieces, hpattern, List.splitOn_append_cons_self, List.splitOn_eq_singleton hfirst]
        simp
      have hhead := (h _ hmem).2
      rw [String.toList_ofList] at hhead
      rw [hpattern, List.head?_append, List.head?_cons] at hcaret
      cases first with
      | nil => cases hcaret
      | cons c first => exact hhead hcaret
  · exact h pattern (by rw [Text.pieces_eq_singleton hbar]; exact List.mem_singleton_self pattern)

/-! ## Rules for the alternatives -/

/-- A rule for one alternative accepts the names that contain it. -/
theorem Rule.accepts_alternative (h : IsList pattern) (hbar : '|' ∉ pattern.toList)
    (name : String) :
    (Rule.mk pattern kind).accepts name = Text.hasInfix pattern.toList name.toList := by
  rw [Rule.accepts_of_isList h, Text.pieces_eq_singleton hbar, List.any_cons, List.any_nil,
    Bool.or_false]

theorem firstRefused?_alternatives (h : ∀ p ∈ ps, IsList p) :
    firstRefused? (ps.map (Rule.mk · kind)) = none := by
  rw [firstRefused?_eq_none_iff, List.forall_mem_map]
  exact fun p hp => not_isRefused_of_isList (h p hp)

theorem firstKind?_alternatives (h : ∀ p ∈ ps, IsList p) (hbar : ∀ p ∈ ps, '|' ∉ p.toList)
    (name : String) :
    firstKind? (ps.map (Rule.mk · kind)) name =
      if ps.any (fun p => Text.hasInfix p.toList name.toList) then some kind else none := by
  induction ps with
  | nil => rfl
  | cons p ps ih =>
    rw [List.forall_mem_cons] at h hbar
    rw [List.map_cons, firstKind?_cons, Rule.accepts_alternative h.1 hbar.1, ih h.2 hbar.2,
      List.any_cons]
    cases Text.hasInfix p.toList name.toList <;> rfl

theorem firstKind?_of_isList (h : IsList pattern) (name : String) :
    firstKind? [Rule.mk pattern kind] name =
      if (Text.pieces '|' pattern).any (fun p => Text.hasInfix p.toList name.toList) then some kind
      else none := by
  rw [firstKind?_cons, Rule.accepts_of_isList h]
  rfl

/-! ## Splitting a rule -/

/-- In the place of a rule stand other rules that are not refused either and give the same kind to
the same names. -/
theorem meaning_replace {old new : List Rule} (hold : firstRefused? old = none)
    (hnew : firstRefused? new = none) (hkind : ∀ name, firstKind? new name = firstKind? old name) :
    RuleTable.meaning (front ++ new ++ back) = RuleTable.meaning (front ++ old ++ back) := by
  refine RuleTable.meaning_congr ?_ fun name => ?_
  · simp only [firstRefused?_append, hold, hnew]
  · simp only [firstKind?_append, hkind]

/-- **A rule is the same as its alternatives.**  Let none of the alternatives of a pattern be the
default or begin with `^`.  Then a rule list with rules for these alternatives in the place of the
rule, in any order, is refused or compiled as before and classifies every name as before, and so it
does with the alternatives of the pattern in any order. -/
theorem meaning_split (pattern : String) (kind : Kind) (front back : List Rule)
    (hpieces : ∀ p ∈ Text.pieces '|' pattern, IsList p)
    {ps : List String} (hps : ps.Perm (Text.pieces '|' pattern)) :
    RuleTable.meaning (front ++ ps.map (Rule.mk · kind) ++ back) =
        RuleTable.meaning (front ++ [⟨pattern, kind⟩] ++ back) ∧
      RuleTable.meaning (front ++ [⟨Text.join "|" ps, kind⟩] ++ back) =
        RuleTable.meaning (front ++ [⟨pattern, kind⟩] ++ back) := by
  have hlist : ∀ p ∈ ps, IsList p := fun p hp => hpieces p (hps.mem_iff.1 hp)
  have hbar : ∀ p ∈ ps, '|' ∉ p.toList := fun p hp =>
    Text.not_mem_of_mem_pieces (hps.mem_iff.1 hp)
  have hjoin : Text.pieces '|' (Text.join "|" ps) = ps := by
    refine Text.pieces_join rfl (fun hnil => ?_) hbar
    rw [hnil] at hps
    exact Text.pieces_ne_nil '|' pattern hps.nil_eq.symm
  have hpattern : IsList pattern := isList_of_pieces hpieces
  have hjoined : IsList (Text.join "|" ps) := isList_of_pieces (by rwa [hjoin])
  have hsingle {pattern : String} (h : IsList pattern) :
      firstRefused? [Rule.mk pattern kind] = none := by
    rw [firstRefused?_eq_none_iff, List.forall_mem_singleton]
    exact not_isRefused_of_isList h
  constructor
  · refine meaning_replace (hsingle hpattern) (firstRefused?_alternatives hlist) fun name => ?_
    rw [firstKind?_alternatives hlist hbar, firstKind?_of_isList hpattern, hps.any_eq]
  · refine meaning_replace (hsingle hpattern) (hsingle hjoined) fun name => ?_
    rw [firstKind?_of_isList hjoined, firstKind?_of_isList hpattern, hjoin, hps.any_eq]

/-- One of the alternatives is empty, so the rule behind them is never reached. -/
theorem meaning_split_empty_alternative :
    (∀ p ∈ Text.pieces '|' "b||a", IsList p) ∧ ["", "a", "b"].Perm (Text.pieces '|' "b||a") ∧
      RuleTable.meaning [⟨"^c", .sum⟩, ⟨"", .gauge⟩, ⟨"a", .gauge⟩, ⟨"b", .gauge⟩, ⟨"*", .sum⟩] =
        RuleTable.meaning [⟨"^c", .sum⟩, ⟨"b||a", .gauge⟩, ⟨"*", .sum⟩] ∧
      RuleTable.meaning [⟨"^c", .sum⟩, ⟨"|a|b", .gauge⟩, ⟨"*", .sum⟩] =
        RuleTable.meaning [⟨"^c", .sum⟩, ⟨"b||a", .gauge⟩, ⟨"*", .sum⟩] := by
  have hpieces : ∀ p ∈ Text.pieces '|' "b||a", IsList p := by decide +kernel
  have hperm : ["", "a", "b"].Perm (Text.pieces '|' "b||a") := by decide +kernel
  exact ⟨hpieces, hperm, meaning_split "b||a" .gauge [⟨"^c", .sum⟩] [⟨"*", .sum⟩] hpieces hperm⟩

end DashQuery.Metric

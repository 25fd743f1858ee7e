import DashQuery.Proofs.Lexing

/-!
# Which texts are queries

A text is a query exactly if it begins with the name of an aggregation, a colon and a metric.
Nothing behind that can make it fail, and nothing in front of it is skipped.

* `isAggregationToken_iff`: the names of aggregations.
* `head?_eq_some_iff`: the token and the metric that are found at the front of a text.
* `parse_eq_error_iff`: a text fails as a whole, and only by its head.
* `parse_iff_isHead`: which texts are queries, and what is read from their head.
-/

namespace DashQuery.Query

variable {cs token metric rest : List Char}

/-- The name of an aggregation: one of five words, or `p` and at least one ASCII digit. -/
def IsAggregationName (token : List Char) : Prop :=
  (∃ word ∈ ["count", "avg", "sum", "max", "min"], token = String.toList word) ∨
    ∃ rank, token = 'p' :: rank ∧ rank ≠ [] ∧ ∀ c ∈ rank, '0' ≤ c ∧ c ≤ '9'

/-- The text begins with the name of an aggregation and a colon.  In the rest the metric comes
first, so the rest is not empty and does not begin with a brace. -/
structure IsHead (cs token rest : List Char) : Prop where
  text : cs = token ++ ':' :: rest
  token : IsAggregationName token
  rest_ne : rest ≠ []
  rest_head : rest.head? ≠ some '{'

/-- The longest beginning of a text without an opening brace. -/
structure IsLongestUnbraced (cs front : List Char) : Prop where
  isPrefix : front <+: cs
  unbraced : '{' ∉ front
  longest : ∀ other, other <+: cs → '{' ∉ other → other.length ≤ front.length

theorem isDigit_iff {c : Char} : c.isDigit = true ↔ '0' ≤ c ∧ c ≤ '9' := by
  rw [Char.isDigit, Bool.and_eq_true, decide_eq_true_eq, decide_eq_true_eq]
  rfl

/-- **The tokens that have the form of an aggregation.** -/
theorem isAggregationToken_iff : isAggregationToken token = true ↔ IsAggregationName token := by
  rw [isAggregationToken, Bool.or_eq_true, IsAggregationName]
  refine or_congr ?_ ?_
  · rw [List.any_eq_true]
    refine exists_congr fun word => and_congr Iff.rfl ?_
    rw [beq_iff_eq, eq_comm]
  · rw [Bool.and_eq_true, beq_iff_eq, isRank_iff]
    simp only [isDigit_iff]
    constructor
    · rintro ⟨hp, hrank⟩
      obtain ⟨rank, rfl⟩ := List.head?_eq_some_iff.1 hp
      exact ⟨rank, rfl, hrank⟩
    · rintro ⟨rank, rfl, hrank⟩
      exact ⟨rfl, hrank⟩

/-- The text in front of the first opening brace. -/
theorem isLongestUnbraced_before (cs : List Char) : IsLongestUnbraced cs (Text.before '{' cs) where
  isPrefix := List.takeWhile_prefix _
  unbraced := Text.not_mem_before
  longest := by
    rintro other ⟨back, rfl⟩ hother
    have hall : ∀ c ∈ other, (c != '{') = true := Text.bne_of_not_mem hother
    rw [Text.before, List.takeWhile_append_of_pos hall, List.length_append]
    exact Nat.le_add_right _ _

theorem before_ne_nil_iff : Text.before '{' rest ≠ [] ↔ rest ≠ [] ∧ rest.head? ≠ some '{' := by
  cases rest with
  | nil => simp [Text.before]
  | cons c rest =>
    by_cases hc : c = '{'
    · simp [Text.before, hc]
    · simp [Text.before, hc]

/-- **What is found at the front of a text.** -/
theorem head?_eq_some_iff :
    head? cs = some (token, metric) ↔
      ∃ rest, IsHead cs token rest ∧ metric = Text.before '{' rest := by
  constructor
  · intro h
    unfold head? at h
    split at h
    · cases h
    · rename_i token' rest hcut
      dsimp only at h
      split at h
      · rename_i hcond
        cases h
        rw [Bool.and_eq_true, Bool.not_eq_true', List.isEmpty_eq_false_iff, isAggregationToken_iff,
          before_ne_nil_iff] at hcond
        obtain ⟨htoken, hne, hhead⟩ := hcond
        exact ⟨rest, ⟨(Text.cut?_eq_some_iff.1 hcut).2, htoken, hne, hhead⟩, rfl⟩
      · cases h
  · rintro ⟨rest, h, rfl⟩
    have htoken := isAggregationToken_iff.2 h.token
    -- the name of an aggregation has no colon in it, so the text is cut behind it
    obtain ⟨a, ha⟩ := Option.isSome_iff_exists.1 (isAggregationToken_eq token ▸ htoken)
    have hcut : Text.cut? ':' cs = some (token, rest) :=
      Text.cut?_eq_some_iff.2 ⟨not_mem_of_ofToken? ha (by decide), h.text⟩
    have hne : Text.before '{' rest ≠ [] := before_ne_nil_iff.2 ⟨h.rest_ne, h.rest_head⟩
    simp [head?, hcut, htoken, hne]

/-- A token at the front of a text is always read as an aggregation. -/
theorem exists_ofToken?_of_head? (h : head? cs = some (token, metric)) :
    ∃ a, Aggregation.ofToken? token = some a := by
  obtain ⟨rest, hhead, -⟩ := head?_eq_some_iff.1 h
  rw [← Option.isSome_iff_exists, ← isAggregationToken_eq]
  exact isAggregationToken_iff.2 hhead.token

/-- **A text fails as a whole, and only if nothing is found at its front.** -/
theorem parse_eq_error_iff {text : String} {labels : Label.Table} {e : Unparseable} :
    parse text labels = .error e ↔ head? text.toList = none ∧ e = ⟨text⟩ := by
  cases hhead : head? text.toList with
  | none => simp [parse, hhead, eq_comm]
  | some found =>
    obtain ⟨a, ha⟩ := exists_ofToken?_of_head? hhead
    simp [parse, hhead, ha]

/-- What is read from the head of a text. -/
theorem parse_of_isHead {text : String} (labels : Label.Table)
    (h : IsHead text.toList token rest) :
    ∃ q, parse text labels = .ok q ∧ q.aggregation.text.toList = token ∧
      q.metric = String.ofList (Text.trim (Text.before '{' rest)) := by
  have hhead := head?_eq_some_iff.2 ⟨rest, h, rfl⟩
  obtain ⟨a, ha⟩ := exists_ofToken?_of_head? hhead
  exact ⟨_, parse_eq_ok labels hhead ha, Aggregation.text_of_ofToken? ha, rfl⟩

/-- **Which texts are queries.**  They are those with the name of an aggregation, a colon and a
metric at their front.  The aggregation is written as that name, and the metric is the longest text
behind the colon without a brace, less the blanks around it.  Every other text is an error that
carries it unchanged, found by its head alone: what is found there is always read. -/
theorem parse_iff_isHead (text : String) (labels : Label.Table) :
    ((∃ q, parse text labels = .ok q) ↔ ∃ token rest, IsHead text.toList token rest) ∧
      (∀ token rest, IsHead text.toList token rest →
        ∃ q metric, parse text labels = .ok q ∧ q.aggregation.text.toList = token ∧
          IsLongestUnbraced rest metric ∧ q.metric = String.ofList (Text.trim metric)) ∧
      ((¬ ∃ token rest, IsHead text.toList token rest) → parse text labels = .error ⟨text⟩) ∧
      (∀ token metric, head? text.toList = some (token, metric) →
        Aggregation.ofToken? token ≠ none) := by
  have hfails : (¬ ∃ token rest, IsHead text.toList token rest) →
      parse text labels = .error ⟨text⟩ := by
    intro h
    refine parse_eq_error_iff.2 ⟨Option.eq_none_iff_forall_ne_some.2 fun found hfound => h ?_, rfl⟩
    obtain ⟨rest, hhead, -⟩ := head?_eq_some_iff.1 hfound
    exact ⟨found.1, rest, hhead⟩
  refine ⟨⟨fun hok => ?_, fun hhead => ?_⟩, fun token rest hhead => ?_, hfails, ?_⟩
  · obtain ⟨q, hq⟩ := hok
    refine Classical.byContradiction fun hnone => ?_
    rw [hfails hnone] at hq
    cases hq
  · obtain ⟨token, rest, hhead⟩ := hhead
    obtain ⟨q, hq, -, -⟩ := parse_of_isHead labels hhead
    exact ⟨q, hq⟩
  · obtain ⟨q, hq, htext, hmetric⟩ := parse_of_isHead labels hhead
    exact ⟨q, _, hq, htext, isLongestUnbraced_before rest, hmetric⟩
  · intro token metric hfound hnone
    obtain ⟨a, ha⟩ := exists_ofToken?_of_head? hfound
    rw [ha] at hnone
    cases hnone

end DashQuery.Query

import DashQuery.Conversion
import DashQuery.Proofs.Grammar
import DashQuery.Proofs.Layout

/-!
# Modifiers behind a query

Every part of a query is found by a scan of its own over the whole text, so a text put behind a
query could complete or lengthen any of them.  Braces are what a part can be completed by.  Without
them a text behind a query only lengthens a metric that no brace ends.

* `selector?_append`, `byClause?_append`: the blocks of a query are the same with a text without
  braces behind it.
* `parse_append`: what is read from a query with such a text behind it.
* `scan_append_modifier`: a modifier behind a text is found, and of the other one nothing changes.
* `parse_append_modifier`: what a modifier behind a query changes.
* `modifier_in_metric`: in a query without a block that is the metric, too.
-/

namespace DashQuery.Query

variable {cs tail token rest : List Char} {text back : String} {labels : Label.Table} {q : Query}

/-! ## Blocks -/

theorem block?_append (h : '}' ∉ tail) : block? (cs ++ tail) = block? cs := by
  unfold block?
  by_cases hmem : '}' ∈ cs
  · rw [if_pos (by simp [hmem]), if_pos (by simp [hmem]), Text.before_append_of_mem hmem]
  · rw [if_neg (by simp [hmem, h]), if_neg (by simp [hmem])]

theorem selector?_append (hopen : '{' ∉ tail) (hclose : '}' ∉ tail) :
    selector? (cs ++ tail) = selector? cs := by
  rw [selector?, selector?, Text.after?_append hopen]
  cases Text.after? '{' cs with
  | none => rfl
  | some rest => exact block?_append hclose

theorem byClause?_append (hopen : '{' ∉ tail) (hclose : '}' ∉ tail) :
    byClause? (cs ++ tail) = byClause? cs := by
  induction cs with
  | nil => exact byClause?_eq_none hopen
  | cons c cs ih =>
    -- at every place the same clause begins, if one does
    have hhere : (Text.stripPrefix? byOpening (c :: (cs ++ tail))).bind block? =
        (Text.stripPrefix? byOpening (c :: cs)).bind block? := by
      have hlast : ∀ c, byOpening.getLast? = some c → c ∉ tail := by
        rintro c ⟨⟩
        exact hopen
      rw [← List.cons_append, Text.stripPrefix?_append hlast]
      cases Text.stripPrefix? byOpening (c :: cs) with
      | none => rfl
      | some rest => exact block?_append hclose
    rw [List.cons_append, byClause?, byClause?, hhere, ih]

/-! ## Queries -/

/-- The head of a text is not lost when more text is put behind it. -/
theorem IsHead.append (h : IsHead cs token rest) (tail : List Char) :
    IsHead (cs ++ tail) token (rest ++ tail) where
  text := by rw [h.text, List.append_assoc, List.cons_append]
  token := h.token
  rest_ne := List.append_ne_nil_of_left_ne_nil h.rest_ne tail
  rest_head := by
    obtain ⟨c, rest', rfl⟩ := List.exists_cons_of_ne_nil h.rest_ne
    exact h.rest_head

/-- The first brace of a query stands behind its colon. -/
theorem IsHead.opening_mem_iff (h : IsHead cs token rest) : '{' ∈ cs ↔ '{' ∈ rest := by
  obtain ⟨a, ha⟩ := Option.isSome_iff_exists.1
    (isAggregationToken_eq token ▸ isAggregationToken_iff.2 h.token)
  have htoken : '{' ∉ token := not_mem_of_ofToken? ha (by decide)
  rw [h.text]
  simp [htoken]

/-- **What is read from a query with a text without braces behind it.**  The metric is what stands
in front of the first brace, or in front of the end; every other part but the modifiers is the same
as without the text. -/
theorem parse_append (hopen : '{' ∉ back.toList) (hclose : '}' ∉ back.toList)
    (h : parse text labels = .ok q) :
    ∃ token rest, IsHead text.toList token rest ∧
      q.metric = String.ofList (Text.trim (Text.before '{' rest)) ∧
      parse (text ++ back) labels = .ok
        { q with
          metric := String.ofList (Text.trim (Text.before '{' (rest ++ back.toList)))
          modifiers := .scan (text ++ back) } := by
  obtain ⟨token, metric, hhead, ha, hq⟩ := exists_head?_of_parse h
  obtain ⟨rest, hrest, rfl⟩ := head?_eq_some_iff.1 hhead
  have hlong : head? (text ++ back).toList =
      some (token, Text.before '{' (rest ++ back.toList)) := by
    rw [String.toList_append]
    exact head?_eq_some_iff.2 ⟨_, hrest.append back.toList, rfl⟩
  have hselector : selector? (text ++ back).toList = selector? text.toList := by
    rw [String.toList_append, selector?_append hopen hclose]
  have hclause : byClause? (text ++ back).toList = byClause? text.toList := by
    rw [String.toList_append, byClause?_append hopen hclose]
  refine ⟨token, rest, hrest, by rw [hq], ?_⟩
  rw [parse_eq_ok labels hlong ha, hq]
  simp only [selectorFilters, groupLabels, byAttributes, wildcardAttributes, hselector, hclause]

/-! ## Modifiers -/

/-- The modifiers with one more of them. -/
def Modifiers.set (modifiers : Modifiers) : Modifier → Modifiers
  | .count => { modifiers with asCount := true }
  | .rate => { modifiers with asRate := true }

/-- A modifier has its dot in front and no other. -/
theorem Modifier.exists_written_eq (m : Modifier) :
    ∃ word, m.written = '.' :: word ∧ '.' ∉ word := by
  cases m with
  | count => exact ⟨"as_count()".toList, by decide, by decide⟩
  | rate => exact ⟨"as_rate()".toList, by decide, by decide⟩

/-- Behind a text with a modifier at its end a modifier is found if it is that one or occurs in the
text. -/
theorem Modifier.hasInfix_append_written (m m' : Modifier) :
    Text.hasInfix m'.written (cs ++ m.written) = (Text.hasInfix m'.written cs || m' == m) := by
  have hself : m'.written <:+: m.written ↔ m' = m := by
    rw [← Text.hasInfix_eq_true_iff]
    cases m <;> cases m' <;> decide
  obtain ⟨word, hword, hdot⟩ := m.exists_written_eq
  obtain ⟨word', hword', hdot'⟩ := m'.exists_written_eq
  rw [Bool.eq_iff_iff, Bool.or_eq_true, beq_iff_eq, Text.hasInfix_eq_true_iff,
    Text.hasInfix_eq_true_iff, ← hself, hword, hword']
  exact Text.cons_infix_append_cons_iff hdot'

/-- **A modifier behind a text sets its flag and no other.** -/
theorem scan_append_modifier (text : String) (m : Modifier) :
    Modifiers.scan (text ++ m.text) = (Modifiers.scan text).set m := by
  have hfound : ∀ m' : Modifier, Text.hasInfix m'.written (text ++ m.text).toList =
      (Text.hasInfix m'.written text.toList || m' == m) := by
    intro m'
    rw [String.toList_append, m.toList_text, Modifier.hasInfix_append_written]
  have hscan : Modifiers.scan (text ++ m.text) =
      ⟨Text.hasInfix Modifier.count.written (text ++ m.text).toList,
        Text.hasInfix Modifier.rate.written (text ++ m.text).toList⟩ := rfl
  rw [hscan, hfound, hfound]
  cases m with
  | count => simp [Modifiers.scan, Modifiers.set, Modifier.written]
  | rate => simp [Modifiers.scan, Modifiers.set, Modifier.written]

/-- Only a count is written differently under other modifiers. -/
theorem ofQuery_congr_of_ne_count {q' : Query} (hq : q.aggregation ≠ .count)
    (hsame : q' = { q with modifiers := q'.modifiers }) (kind : Metric.Kind) :
    Promql.Expr.ofQuery q' kind labels = Promql.Expr.ofQuery q kind labels := by
  rw [hsame]
  unfold Promql.Expr.ofQuery
  cases ha : q.aggregation with
  | count => exact absurd ha hq
  | _ => rfl

/-- Without a brace the metric reaches to the end of the text, and a modifier ends it. -/
theorem exists_trim_before_append (h : '{' ∉ rest) (m : Modifier) :
    ∃ blanks, blanks.all Text.isBlank = true ∧
      String.ofList (Text.trim (Text.before '{' (rest ++ m.text.toList))) =
        String.ofList (Text.trim (Text.before '{' rest)) ++ String.ofList blanks ++ m.text := by
  have hunbraced : '{' ∉ rest ++ m.text.toList := by
    rw [List.mem_append, not_or, m.toList_text]
    exact ⟨h, m.mark_not_mem_written (by decide)⟩
  obtain ⟨blanks, hblanks, htrim⟩ :=
    Text.exists_trim_append rest m.trimmed_written m.written_ne_nil
  refine ⟨blanks, hblanks, ?_⟩
  rw [Text.before_eq_self hunbraced, Text.before_eq_self h, m.toList_text, htrim,
    ← String.toList_inj]
  simp

/-- A name with a modifier at its end is another one. -/
theorem append_modifier_ne (name blanks : String) (m : Modifier) :
    name ++ blanks ++ m.text ≠ name := by
  intro heq
  have hlength := congrArg (fun s : String => s.toList.length) heq
  have hpos := List.length_pos_iff.2 m.written_ne_nil
  simp only [String.toList_append, List.length_append, m.toList_text] at hlength
  omega

/-- **A modifier behind a query sets its flag.**  The query is still read, with the same
aggregation, filters, grouping and by clause, whether its blocks are closed or not.  Its metric is
the same exactly if an opening brace ends it, and then the PromQL of every query but a count is the
same, whatever the rules are.  Without a brace the metric reaches to the end of the text, and the
modifier becomes the end of its name. -/
theorem parse_append_modifier (h : parse text labels = .ok q) (m : Modifier) :
    ∃ q', parse (text ++ m.text) labels = .ok q' ∧
      q'.aggregation = q.aggregation ∧ q'.filters = q.filters ∧ q'.groupBy = q.groupBy ∧
      q'.byClause = q.byClause ∧ q'.modifiers = q.modifiers.set m ∧
      (q'.metric = q.metric ↔ '{' ∈ text.toList) ∧
      ('{' ∉ text.toList → ∃ blanks, blanks.all Text.isBlank = true ∧
        q'.metric = q.metric ++ String.ofList blanks ++ m.text) ∧
      ('{' ∈ text.toList → q.aggregation ≠ .count → ∀ rules,
        Promql.ofText (text ++ m.text) rules labels = Promql.ofText text rules labels) := by
  have hopen : '{' ∉ m.text.toList := m.toList_text ▸ m.mark_not_mem_written (by decide)
  have hclose : '}' ∉ m.text.toList := m.toList_text ▸ m.mark_not_mem_written (by decide)
  obtain ⟨token, rest, hrest, hmetric, hlong⟩ := parse_append hopen hclose h
  have hmodifiers : Modifiers.scan (text ++ m.text) = q.modifiers.set m := by
    obtain ⟨-, -, -, hscan⟩ := scans_of_parse h
    rw [scan_append_modifier, hscan]
  rw [hmodifiers] at hlong
  have hbraced : '{' ∈ text.toList →
      String.ofList (Text.trim (Text.before '{' (rest ++ m.text.toList))) = q.metric := by
    intro hmem
    rw [Text.before_append_of_mem (hrest.opening_mem_iff.1 hmem), hmetric]
  have hunbraced : '{' ∉ text.toList → ∃ blanks, blanks.all Text.isBlank = true ∧
      String.ofList (Text.trim (Text.before '{' (rest ++ m.text.toList))) =
        q.metric ++ String.ofList blanks ++ m.text := by
    intro hmem
    rw [hmetric]
    exact exists_trim_before_append (fun hc => hmem (hrest.opening_mem_iff.2 hc)) m
  refine ⟨_, hlong, rfl, rfl, rfl, rfl, rfl, ⟨fun hsame => ?_, hbraced⟩, hunbraced,
    fun hmem hcount rules => ?_⟩
  · refine Classical.byContradiction fun hmem => ?_
    obtain ⟨blanks, -, hname⟩ := hunbraced hmem
    exact append_modifier_ne _ _ m (hname.symm.trans hsame)
  · rw [Promql.ofText, Promql.ofText, hlong, h, hbraced hmem]
    exact congrArg (fun e => Except.ok (Promql.Expr.render e))
      (ofQuery_congr_of_ne_count hcount rfl _)

/-- A selector that is not closed ends the metric all the same. -/
theorem parse_append_modifier_unclosed :
    ∃ q q', parse "sum:m\x7bhost:a" .empty = .ok q ∧
      parse ("sum:m\x7bhost:a" ++ Modifier.rate.text) .empty = .ok q' ∧ q'.metric = q.metric ∧
      q'.filters = q.filters ∧ q'.modifiers = q.modifiers.set .rate ∧
      ∀ rules, Promql.ofText ("sum:m\x7bhost:a" ++ Modifier.rate.text) rules .empty =
        Promql.ofText "sum:m\x7bhost:a" rules .empty := by
  have hq : ∃ q, parse "sum:m\x7bhost:a" .empty = .ok q ∧ q.aggregation ≠ .count :=
    ⟨_, rfl, by decide⟩
  obtain ⟨q, hq, hcount⟩ := hq
  obtain ⟨q', hq', -, hfilters, -, -, hset, hmetric, -, hpromql⟩ := parse_append_modifier hq .rate
  have hbrace : '{' ∈ "sum:m\x7bhost:a".toList := by decide
  exact ⟨q, q', hq, hq', hmetric.2 hbrace, hfilters, hset, hpromql hbrace hcount⟩

/-- Without a block the modifier is found, and it is part of the metric as well. -/
theorem modifier_in_metric :
    ∃ q q', parse "count:m" .empty = .ok q ∧
      parse ("count:m" ++ Modifier.count.text) .empty = .ok q' ∧
      q'.modifiers = q.modifiers.set .count ∧ q.metric = "m" ∧ q'.metric = "m.as_count()" :=
  ⟨_, _, rfl, rfl, by decide, by decide, by decide⟩

end DashQuery.Query

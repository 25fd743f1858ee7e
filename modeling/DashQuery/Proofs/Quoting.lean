import DashQuery.Conversion
import DashQuery.Proofs.Lexing

/-!
# Reading the literals of a selector back

A selector puts the name of the metric and the values of its matchers between double quotes as they
are.  A reader of PromQL takes a backslash for a sign that the next character stands for itself, and
the first quote without that sign for the end of the literal.  So a value with a quote or a
backslash in it is not read back, and what is read instead can be another number of matchers.

* `readLiteral?`, `readLiterals?`: the reader.
* `plain_of_readLiteral?`: a text is read back from between quotes only if it is plain.
* `readLiterals?_quoted_iff`: the same for a row of literals.
* `readLiterals?_ofText_iff`: which queries have a selector that is read back.
-/

namespace DashQuery.Promql

variable {cs front value rest last : List Char} {items : List (List Char × List Char)}

/-! ## The reader -/

/-- The text that a literal stands for and the text behind it, from behind its opening quote.  A
backslash gives the next character as it is, and the first other quote ends the literal. -/
def readLiteral? : List Char → Option (List Char × List Char)
  | [] => none
  | '"' :: cs => some ([], cs)
  | '\\' :: c :: cs => (readLiteral? cs).map fun r => (c :: r.1, r.2)
  | c :: cs => (readLiteral? cs).map fun r => (c :: r.1, r.2)

theorem readLiteral?_length_lt (h : readLiteral? cs = some (value, rest)) :
    rest.length < cs.length := by
  fun_induction readLiteral? cs generalizing value with
  | case1 => cases h
  | case2 cs => cases h; exact Nat.lt_succ_self _
  | case3 c cs ih =>
    obtain ⟨r, hr, heq⟩ := Option.map_eq_some_iff.1 h
    cases heq
    exact Nat.lt_succ_of_lt (Nat.lt_succ_of_lt (ih hr))
  | case4 c cs _ _ ih =>
    obtain ⟨r, hr, heq⟩ := Option.map_eq_some_iff.1 h
    cases heq
    exact Nat.lt_succ_of_lt (ih hr)

/-- The literals of a text, each with the text in front of it, and the text behind the last one. -/
def readLiterals? (cs : List Char) : Option (List (List Char × List Char) × List Char) :=
  match _hafter : Text.after? '"' cs with
  | none => some ([], cs)
  | some body =>
    match _hread : readLiteral? body with
    | none => none
    | some (value, rest) =>
      (readLiterals? rest).map fun r => ((Text.before '"' cs, value) :: r.1, r.2)
termination_by cs.length
decreasing_by
  have hrest := readLiteral?_length_lt _hread
  have hbody := congrArg List.length (Text.before_append_after _hafter)
  rw [List.length_append, List.length_cons] at hbody
  omega

theorem readLiterals?_of_not_mem (h : '"' ∉ cs) : readLiterals? cs = some ([], cs) := by
  have hafter : Text.after? '"' cs = none := by
    refine Option.eq_none_iff_forall_ne_some.2 fun body hbody => h ?_
    rw [Text.before_append_after hbody]
    exact List.mem_append_right _ List.mem_cons_self
  unfold readLiterals?
  split
  · rfl
  · rename_i body hbody
    rw [hafter] at hbody
    cases hbody

theorem readLiterals?_append_quote (h : '"' ∉ front) :
    readLiterals? (front ++ '"' :: cs) =
      (readLiteral? cs).bind fun l =>
        (readLiterals? l.2).map fun r => ((front, l.1) :: r.1, r.2) := by
  rw [readLiterals?]
  split
  · rename_i hnone
    rw [Text.after?_append_cons h] at hnone
    cases hnone
  · rename_i body hbody
    rw [Text.after?_append_cons h] at hbody
    cases hbody
    rw [Text.before_append_cons h]
    split <;> rename_i hread <;> rw [hread] <;> rfl

/-- What is read first, and that no quote stands in front of it. -/
theorem readLiterals?_eq_cons_iff :
    readLiterals? cs = some ((front, value) :: items, last) ↔
      '"' ∉ front ∧ ∃ body rest, cs = front ++ '"' :: body ∧
        readLiteral? body = some (value, rest) ∧ readLiterals? rest = some (items, last) := by
  constructor
  · intro h
    by_cases hquote : '"' ∈ cs
    · obtain ⟨front', body, rfl, hfront'⟩ := List.eq_append_cons_of_mem hquote
      rw [readLiterals?_append_quote hfront', Option.bind_eq_some_iff] at h
      obtain ⟨⟨value', rest⟩, hread, h⟩ := h
      obtain ⟨⟨items', last'⟩, hrest, heq⟩ := Option.map_eq_some_iff.1 h
      cases heq
      exact ⟨hfront', body, rest, rfl, hread, hrest⟩
    · rw [readLiterals?_of_not_mem hquote] at h
      cases h
  · rintro ⟨hfront, body, rest, rfl, hread, hrest⟩
    rw [readLiterals?_append_quote hfront, hread, Option.bind_some, hrest]
    rfl

/-! ## What is read back -/

/-- A text that means the same to the reader as to the writer. -/
def Plain (cs : List Char) : Prop := '"' ∉ cs ∧ '\\' ∉ cs

instance (cs : List Char) : Decidable (Plain cs) := inferInstanceAs (Decidable (_ ∧ _))

theorem plain_nil : Plain [] := by decide

theorem plain_cons_iff {c : Char} : Plain (c :: cs) ↔ (c ≠ '"' ∧ c ≠ '\\') ∧ Plain cs := by
  simp only [Plain, List.mem_cons, not_or, ne_eq, eq_comm (b := c)]
  constructor
  · rintro ⟨⟨hq, hcs⟩, hb, hcs'⟩
    exact ⟨⟨hq, hb⟩, hcs, hcs'⟩
  · rintro ⟨⟨hq, hb⟩, hcs, hcs'⟩
    exact ⟨⟨hq, hcs⟩, hb, hcs'⟩

theorem readLiteral?_cons {c : Char} (hquote : c ≠ '"') (hslash : c ≠ '\\') :
    readLiteral? (c :: cs) = (readLiteral? cs).map fun r => (c :: r.1, r.2) := by
  rw [readLiteral?]
  · exact hquote
  · exact fun _ _ hc _ => hslash hc

theorem readLiteral?_append_quote (h : Plain value) :
    readLiteral? (value ++ '"' :: rest) = some (value, rest) := by
  induction value with
  | nil => rfl
  | cons c value ih =>
    obtain ⟨⟨hquote, hslash⟩, hvalue⟩ := plain_cons_iff.1 h
    rw [List.cons_append, readLiteral?_cons hquote hslash, ih hvalue]
    rfl

theorem replicate_append_cons (c : Char) (n : Nat) :
    List.replicate n c ++ c :: cs = c :: (List.replicate n c ++ cs) := by
  rw [← List.cons_append, ← List.replicate_succ, List.replicate_succ', List.append_assoc,
    List.singleton_append]

/-- A literal is read as backslashes and its own text only if there are no such backslashes and the
text is plain.  A backslash in the text takes one character more than it gives, so what is read
falls behind by a backslash, and further ones cannot make up for it. -/
theorem plain_of_readLiteral?_replicate {value rest back : List Char} {n : Nat}
    (h : readLiteral? (value ++ '"' :: rest) = some (List.replicate n '\\' ++ value, back)) :
    n = 0 ∧ Plain value := by
  cases value with
  | nil =>
    cases n with
    | zero => exact ⟨rfl, plain_nil⟩
    | succ n => simp [readLiteral?, List.replicate_succ] at h
  | cons c value =>
    by_cases hquote : c = '"'
    · subst hquote
      simp [readLiteral?] at h
    by_cases hslash : c = '\\'
    · subst hslash
      rw [replicate_append_cons] at h
      cases value with
      | nil =>
        -- the closing quote is taken into the literal, in the place of the backslash
        simp [readLiteral?] at h
      | cons d value =>
        rw [List.cons_append, List.cons_append, readLiteral?] at h
        obtain ⟨r, hr, heq⟩ := Option.map_eq_some_iff.1 h
        simp only [Prod.mk.injEq, List.cons.injEq] at heq
        obtain ⟨⟨rfl, hvalue⟩, -⟩ := heq
        have hread : readLiteral? (value ++ '"' :: rest) =
            some (List.replicate (n + 1) '\\' ++ value, r.2) := by
          rw [hr, List.replicate_succ, List.cons_append, ← replicate_append_cons, ← hvalue]
        exact absurd (plain_of_readLiteral?_replicate hread).1 (Nat.succ_ne_zero n)
    · rw [List.cons_append, readLiteral?_cons hquote hslash] at h
      obtain ⟨r, hr, heq⟩ := Option.map_eq_some_iff.1 h
      cases n with
      | zero =>
        simp only [List.replicate_zero, List.nil_append, Prod.mk.injEq, List.cons.injEq,
          true_and] at heq
        have hread : readLiteral? (value ++ '"' :: rest) =
            some (List.replicate 0 '\\' ++ value, r.2) := by
          rw [hr, List.replicate_zero, List.nil_append, ← heq.1]
        exact ⟨rfl, plain_cons_iff.2
          ⟨⟨hquote, hslash⟩, (plain_of_readLiteral?_replicate hread).2⟩⟩
      | succ n =>
        rw [List.replicate_succ, List.cons_append] at heq
        exact absurd (List.cons.inj (Prod.mk.inj heq).1).1 hslash
termination_by value.length

/-- **A text is read back from between quotes only if it is plain.** -/
theorem plain_of_readLiteral? {back : List Char}
    (h : readLiteral? (value ++ '"' :: rest) = some (value, back)) : Plain value :=
  (plain_of_readLiteral?_replicate (n := 0) h).2

/-! ## Rows of literals -/

/-- A row of literals, each behind a text, the last one in front of a text. -/
def quoted (items : List (List Char × List Char)) (last : List Char) : List Char :=
  items.foldr (fun item cs => item.1 ++ '"' :: (item.2 ++ '"' :: cs)) last

theorem quoted_cons (item : List Char × List Char) :
    quoted (item :: items) last = item.1 ++ '"' :: (item.2 ++ '"' :: quoted items last) := rfl

/-- **A row of literals is read back exactly if they are plain and no quote stands between
them.** -/
theorem readLiterals?_quoted_iff (hlast : '"' ∉ last) :
    readLiterals? (quoted items last) = some (items, last) ↔
      ∀ item ∈ items, '"' ∉ item.1 ∧ Plain item.2 := by
  induction items with
  | nil => simp [quoted, readLiterals?_of_not_mem hlast]
  | cons item items ih =>
    obtain ⟨front, value⟩ := item
    rw [quoted_cons, readLiterals?_eq_cons_iff, List.forall_mem_cons, ← ih]
    constructor
    · rintro ⟨hfront, body, rest, htext, hread, hrest⟩
      obtain ⟨-, rfl⟩ := Text.append_cons_inj hfront hfront htext
      have hplain := plain_of_readLiteral? hread
      rw [readLiteral?_append_quote hplain] at hread
      cases hread
      exact ⟨⟨hfront, hplain⟩, hrest⟩
    · rintro ⟨⟨hfront, hplain⟩, hrest⟩
      exact ⟨hfront, _, _, rfl, readLiteral?_append_quote hplain, hrest⟩

/-! ## Selectors -/

/-- The literals of a selector with what stands in front of them: the metric, its kind, and for
each matcher its label, its sign and its value. -/
def Selector.literals (s : Selector) : List (List Char × List Char) :=
  ("\x7botel_metric_name = ".toList, s.metric.toList) ::
    (", otel_metric_type = ".toList, s.kind.name.toList) ::
      s.matchers.map fun m => (", ".toList ++ m.label.toList ++ m.op.sign.toList, m.value.toList)

theorem Selector.render_eq_quoted (s : Selector) :
    s.render.toList = quoted s.literals ['}'] := by
  have hmatchers : ∀ ms : List Matcher,
      (String.join (ms.map fun m => ", " ++ m.render) ++ "\x7d").toList =
        quoted (ms.map fun m => (", ".toList ++ m.label.toList ++ m.op.sign.toList,
          m.value.toList)) ['}'] := by
    intro ms
    induction ms with
    | nil => rfl
    | cons m ms ih =>
      rw [List.map_cons, List.map_cons, quoted_cons, ← ih, String.join_cons]
      simp [Matcher.render]
  rw [literals, quoted_cons, quoted_cons, ← hmatchers]
  simp [render, metricLabel, kindLabel]

theorem plain_kind_name (kind : Metric.Kind) : Plain kind.name.toList := by
  cases kind <;> decide

theorem quote_not_mem_sign (op : MatchOp) : '"' ∉ op.sign.toList := by
  cases op <;> decide

/-- **Which selectors are read back.** -/
theorem Selector.readLiterals?_render_iff (s : Selector) :
    readLiterals? s.render.toList = some (s.literals, ['}']) ↔
      Plain s.metric.toList ∧
        ∀ m ∈ s.matchers, '"' ∉ m.label.toList ∧ Plain m.value.toList := by
  rw [s.render_eq_quoted, readLiterals?_quoted_iff (by decide), literals, List.forall_mem_cons,
    List.forall_mem_cons, List.forall_mem_map]
  have hmatcher : ∀ m : Matcher,
      '"' ∉ ", ".toList ++ m.label.toList ++ m.op.sign.toList ↔ '"' ∉ m.label.toList := by
    intro m
    simp [quote_not_mem_sign]
  simp only [hmatcher]
  constructor
  · rintro ⟨⟨-, hmetric⟩, -, hmatchers⟩
    exact ⟨hmetric, hmatchers⟩
  · rintro ⟨hmetric, hmatchers⟩
    exact ⟨⟨by decide, hmetric⟩, ⟨by decide, plain_kind_name _⟩, hmatchers⟩

/-! ## Queries -/

theorem Expr.leaf_sumBy (grouping : List String) (e : Expr) :
    (sumBy grouping e).leaf = e.leaf := by
  unfold sumBy
  split <;> rfl

/-- The expression of a query is built from its selector. -/
theorem Expr.leaf_ofQuery (q : Query) (kind : Metric.Kind) (labels : Label.Table) :
    (ofQuery q kind labels).leaf = selectorOf q kind labels := by
  unfold ofQuery
  generalize selectorOf q kind labels = s
  cases q.aggregation with
  | percentile rank => rfl
  | count =>
    dsimp only
    split
    · rfl
    · unfold total
      rw [leaf]
      split <;> rfl
  | sum => cases kind <;> first | rfl | exact leaf_sumBy _ _
  | avg => cases kind <;> first | rfl | exact leaf_sumBy _ _
  | max => cases kind <;> rfl
  | min => cases kind <;> rfl

theorem plain_globPattern_iff (value : String) :
    Plain (Query.Filter.globPattern value).toList ↔ Plain value.toList := by
  rw [Query.Filter.globPattern, String.toList_ofList, Plain, Plain,
    Text.mem_replaceChar_iff (by decide) (by decide),
    Text.mem_replaceChar_iff (by decide) (by decide),
    Text.mem_replaceChar_iff (by decide) (by decide),
    Text.mem_replaceChar_iff (by decide) (by decide)]

/-- What the literal of a filter has to denote: its value, or the pattern of its glob. -/
def denoted (f : Query.Filter) : String :=
  if f.wildcard then Query.Filter.globPattern f.value else f.value

theorem matcher_value (f : Query.Filter) (labels : Label.Table) :
    (f.matcher labels).value = denoted f := by
  unfold Query.Filter.matcher denoted
  cases f.wildcard <;> cases f.negated <;> rfl

theorem matcher_label (f : Query.Filter) (labels : Label.Table) :
    (f.matcher labels).label = labels.labelOf f.key := by
  unfold Query.Filter.matcher
  cases f.wildcard <;> cases f.negated <;> rfl

theorem plain_denoted_iff (f : Query.Filter) : Plain (denoted f).toList ↔ Plain f.value.toList := by
  unfold denoted
  split
  · exact plain_globPattern_iff f.value
  · exact Iff.rfl

/-- The literals that a reader should find: the metric, its kind, and one for each filter. -/
def literalsOf (metric : List Char) (kind : Metric.Kind) (fs : List Query.Filter)
    (labels : Label.Table) : List (List Char × List Char) :=
  ("\x7botel_metric_name = ".toList, metric) ::
    (", otel_metric_type = ".toList, kind.name.toList) ::
      fs.map fun f =>
        (", ".toList ++ (labels.labelOf f.key).toList ++ (f.matcher labels).op.sign.toList,
          (denoted f).toList)

theorem literals_selectorOf (q : Query) (kind : Metric.Kind) (labels : Label.Table) :
    (selectorOf q kind labels).literals = literalsOf q.metric.toList kind q.filters labels := by
  simp [Selector.literals, literalsOf, selectorOf, matcher_label, matcher_value]

/-- **Which queries have a selector that is read back.**  The literals in the selector of a query
denote its metric without blanks, the kind and the values of its filters, each behind its own label
and sign and with nothing else in between, exactly if no quote and no backslash occurs in the metric
and the values, and no quote in the labels. -/
theorem readLiterals?_ofText_iff {text : String} {labels : Label.Table} {q : Query}
    (rules : Metric.RuleTable) (h : Query.parse text labels = .ok q) :
    ofText text rules labels =
        .ok (Expr.ofQuery q (rules.classify q.metric) labels).render ∧
      ∃ token metric, Query.head? text.toList = some (token, metric) ∧
        (readLiterals? (Expr.ofQuery q (rules.classify q.metric) labels).leaf.render.toList =
            some (literalsOf (Text.trim metric) (rules.classify (String.ofList (Text.trim metric)))
              (Query.selectorFilters text) labels, ['}']) ↔
          Plain (Text.trim metric) ∧
            ∀ f ∈ Query.selectorFilters text,
              '"' ∉ (labels.labelOf f.key).toList ∧ Plain f.value.toList) := by
  obtain ⟨token, metric, hhead, -, hq⟩ := Query.exists_head?_of_parse h
  have hmetric : q.metric = String.ofList (Text.trim metric) := by rw [hq]
  obtain ⟨hfilters, -, -, -⟩ := Query.scans_of_parse h
  have htext : ofText text rules labels =
      .ok (Expr.ofQuery q (rules.classify q.metric) labels).render := by
    rw [ofText, h]
  refine ⟨htext, token, metric, hhead, ?_⟩
  have hchars : Text.trim metric = q.metric.toList := by rw [hmetric, String.toList_ofList]
  rw [Expr.leaf_ofQuery, ← hmetric, hchars, ← hfilters, ← literals_selectorOf,
    Selector.readLiterals?_render_iff, selectorOf, List.forall_mem_map]
  simp only [matcher_label, matcher_value, plain_denoted_iff]

/-- A metric of two words and a negated glob are read back. -/
theorem readLiterals?_two_words :
    ∃ q, Query.parse "count: two words \x7bteam:a 'b',!env.name:d*\x7d" .empty = .ok q ∧
      ofText "count: two words \x7bteam:a 'b',!env.name:d*\x7d" ⟨[]⟩ .empty =
        .ok (Expr.ofQuery q (Metric.RuleTable.classify ⟨[]⟩ q.metric) .empty).render ∧
      readLiterals?
          (Expr.ofQuery q (Metric.RuleTable.classify ⟨[]⟩ q.metric) .empty).leaf.render.toList =
        some ([("\x7botel_metric_name = ".toList, "two words".toList),
          (", otel_metric_type = ".toList, "gauge".toList), (", team=".toList, "a 'b'".toList),
          (", env_name!~".toList, "d.*".toList)], ['}']) := by
  have h : Query.parse "count: two words \x7bteam:a 'b',!env.name:d*\x7d" .empty =
      .ok ⟨.count, "two words", [⟨"team", "a 'b'", false, false⟩, ⟨"env.name", "d*", true, true⟩],
        [], [], ⟨false, false⟩⟩ := rfl
  obtain ⟨htext, token, metric, hhead, hread⟩ := readLiterals?_ofText_iff ⟨[]⟩ h
  cases hhead
  exact ⟨_, h, htext, hread.2 (by decide)⟩

/-- A value with quotes in it ends its literal and adds a matcher. -/
theorem readLiterals?_added_matcher :
    ∃ q, Query.parse "count:m\x7bteam:a\" env=\"b\x7d" .empty = .ok q ∧
      ofText "count:m\x7bteam:a\" env=\"b\x7d" ⟨[]⟩ .empty =
        .ok (Expr.ofQuery q (Metric.RuleTable.classify ⟨[]⟩ q.metric) .empty).render ∧
      Query.selectorFilters "count:m\x7bteam:a\" env=\"b\x7d" =
        [⟨"team", "a\" env=\"b", false, false⟩] ∧
      readLiterals?
          (Expr.ofQuery q (Metric.RuleTable.classify ⟨[]⟩ q.metric) .empty).leaf.render.toList =
        some ([("\x7botel_metric_name = ".toList, "m".toList),
          (", otel_metric_type = ".toList, "gauge".toList), (", team=".toList, "a".toList),
          (" env=".toList, "b".toList)], ['}']) ∧
      readLiterals?
          (Expr.ofQuery q (Metric.RuleTable.classify ⟨[]⟩ q.metric) .empty).leaf.render.toList ≠
        some (literalsOf "m".toList .gauge [⟨"team", "a\" env=\"b", false, false⟩] .empty,
          ['}']) := by
  have h : Query.parse "count:m\x7bteam:a\" env=\"b\x7d" .empty =
      .ok ⟨.count, "m", [⟨"team", "a\" env=\"b", false, false⟩], [], [], ⟨false, false⟩⟩ := rfl
  have hrender : (Selector.mk "m" .gauge [⟨"team", .equal, "a\" env=\"b"⟩]).render.toList =
      quoted [("\x7botel_metric_name = ".toList, "m".toList),
        (", otel_metric_type = ".toList, "gauge".toList), (", team=".toList, "a".toList),
        (" env=".toList, "b".toList)] ['}'] := by
    decide +kernel
  have hbrace : '"' ∉ ['}'] := by decide
  have hread := (readLiterals?_quoted_iff hbrace).2
    (show ∀ item ∈ [("\x7botel_metric_name = ".toList, "m".toList),
      (", otel_metric_type = ".toList, "gauge".toList), (", team=".toList, "a".toList),
      (" env=".toList, "b".toList)], '"' ∉ item.1 ∧ Plain item.2 by decide)
  rw [← hrender] at hread
  refine ⟨_, h, by rw [ofText, h], rfl, ?_⟩
  rw [Expr.leaf_ofQuery]
  refine ⟨hread, ?_⟩
  show readLiterals? (Selector.mk "m" .gauge [⟨"team", .equal, "a\" env=\"b"⟩]).render.toList ≠ _
  rw [hread]
  decide

end DashQuery.Promql

import DashQuery.Proofs.Dispatch
import DashQuery.Proofs.Quoting

/-!
# Expressions told apart by their texts

The texts inside an expression are written as they are, so two expressions may have one text: a
metric with a quote in it can look like a matcher, a label with a comma like two labels.  If no text
holds the mark that ends it, then the text of an expression determines the expression, down to the
texts of its quantiles.

* `Expr.Legible`: no text in an expression holds the mark that ends it.
* `Expr.Alike`: the same expression, with quantiles of the same text.
* `Selector.eq_of_render_append`: a selector ends where its text says so, whatever stands behind it.
* `Expr.alike_of_render_append`: so does an expression, unless a window could stand behind it.
* `Expr.render_eq_render_iff`: legible expressions have one text exactly if they are alike.
-/

namespace DashQuery.Text

variable {front front' rest rest' : List Char}

/-- A text is cut in one way at the end of the longest front that has only characters of a class. -/
theorem append_inj_of_class {p : Char → Bool} (h : front.all p) (h' : front'.all p)
    (hrest : rest.head?.any p = false) (hrest' : rest'.head?.any p = false)
    (heq : front ++ rest = front' ++ rest') : front = front' ∧ rest = rest' := by
  have htake : ∀ {f r : List Char}, f.all p → r.head?.any p = false →
      (f ++ r).takeWhile p = f := by
    intro f r hf hr
    rw [List.takeWhile_append_of_pos (List.all_eq_true.1 hf)]
    cases r with
    | nil => simp
    | cons c r => rw [List.takeWhile_cons_of_neg (by simpa using hr), List.append_nil]
  have hfront : front = front' := by
    rw [← htake h hrest, heq, htake h' hrest']
  subst hfront
  exact ⟨rfl, List.append_cancel_left heq⟩

/-- **Labels without commas are found again in their row.** -/
theorem join_inj : ∀ {ts us : List String}, ts ≠ [] → us ≠ [] →
    (∀ t ∈ ts, ',' ∉ t.toList) → (∀ u ∈ us, ',' ∉ u.toList) →
      join ", " ts = join ", " us → ts = us
  | [], _, h, _, _, _, _ => absurd rfl h
  | _, [], _, h, _, _, _ => absurd rfl h
  | [t], [u], _, _, _, _, heq => by simpa using heq
  | [t], u :: v :: us, _, _, ht, _, heq => by
    rw [join_singleton, join_cons_cons] at heq
    refine absurd ?_ (ht t List.mem_cons_self)
    simp [heq]
  | t :: v :: ts, [u], _, _, _, hu, heq => by
    rw [join_singleton, join_cons_cons] at heq
    refine absurd ?_ (hu u List.mem_cons_self)
    simp [← heq]
  | t :: t' :: ts, u :: u' :: us, _, _, ht, hu, heq => by
    rw [join_cons_cons, join_cons_cons, ← String.toList_inj] at heq
    simp only [String.toList_append, String.reduceToList, List.append_assoc, List.cons_append,
      List.nil_append] at heq
    obtain ⟨hhead, htail⟩ := append_cons_inj (ht t List.mem_cons_self) (hu u List.mem_cons_self) heq
    have hjoin : join ", " (t' :: ts) = join ", " (u' :: us) :=
      String.toList_inj.1 (List.cons.inj htail).2
    have hrow := join_inj (List.cons_ne_nil t' ts) (List.cons_ne_nil u' us)
      (fun x hx => ht x (List.mem_cons_of_mem _ hx)) (fun x hx => hu x (List.mem_cons_of_mem _ hx))
      hjoin
    rw [String.toList_inj.1 hhead, hrow]

end DashQuery.Text

namespace DashQuery.Decimal

/-! ## What numbers are written with -/

/-- Whether a character can occur in the text of a number. -/
def isPlainChar (c : Char) : Bool := c.isAlphanum || c == '.' || c == '-'

variable {c : Char}

theorem isPlainChar_of_isDigit (h : c.isDigit = true) : isPlainChar c = true := by
  rw [isPlainChar, Char.isAlphanum, h, Bool.or_true, Bool.true_or, Bool.true_or]

theorem isPlainChar_of_mem_toDigits {n : Nat} (h : c ∈ Nat.toDigits 10 n) : isPlainChar c = true :=
  isPlainChar_of_isDigit (Nat.isDigit_of_mem_toDigits (by decide) (by decide) h)

theorem isPlainChar_of_mem_fractionDigits {places n : Nat} (h : c ∈ fractionDigits places n) :
    isPlainChar c = true := by
  rw [fractionDigits, List.mem_reverse] at h
  have hmem := (List.dropWhile_sublist _).subset h
  rw [List.mem_reverse, List.mem_append] at hmem
  rcases hmem with hmem | hmem
  · rw [List.eq_of_mem_replicate hmem]
    decide
  · exact isPlainChar_of_mem_toDigits hmem

theorem Numeral.isPlainChar_of_mem_plain {d : Numeral} (h : c ∈ d.plain) :
    isPlainChar c = true := by
  unfold plain at h
  split at h
  · exact isPlainChar_of_mem_toDigits h
  · dsimp only at h
    split at h
    · exact isPlainChar_of_mem_toDigits h
    · rw [List.mem_append, List.mem_cons] at h
      rcases h with h | rfl | h
      · exact isPlainChar_of_mem_toDigits h
      · decide
      · exact isPlainChar_of_mem_fractionDigits h

/-- **Numbers are written with letters, digits, dots and dashes.** -/
theorem isPlainChar_of_mem_plainText {x : Float} (h : c ∈ (plainText x).toList) :
    isPlainChar c = true := by
  have hall : ∀ {cs : List Char}, cs.all isPlainChar = true → c ∈ cs → isPlainChar c = true :=
    fun hcs hc => List.all_eq_true.1 hcs c hc
  have hsign : ∀ negative, c ∈ signText negative → isPlainChar c = true := by
    intro negative
    refine hall ?_
    cases negative <;> decide
  rw [plainText, String.toList_ofList] at h
  cases hcontents : Contents.ofBits x.toBits.toNat with
  | nan =>
    rw [hcontents] at h
    have hnan : ['N', 'a', 'N'].all isPlainChar = true := by decide
    exact hall hnan h
  | infinite negative =>
    rw [hcontents, Contents.plain, List.mem_append] at h
    exact h.elim (hsign negative) (hall (by decide))
  | zero negative =>
    rw [hcontents, Contents.plain, List.mem_append] at h
    exact h.elim (hsign negative) (hall (by decide))
  | finite negative magnitude =>
    rw [hcontents, Contents.plain, List.mem_append] at h
    exact h.elim (hsign negative) Numeral.isPlainChar_of_mem_plain

/-- The text of a number ends in front of a character that no number is written with. -/
theorem not_mem_plainText (x : Float) (hc : isPlainChar c = false) : c ∉ (plainText x).toList := by
  intro h
  rw [isPlainChar_of_mem_plainText h] at hc
  cases hc

end DashQuery.Decimal

namespace DashQuery.Promql

/-! ## What is told apart -/

/-- A matcher whose label ends at its sign, and whose value ends at the quote behind it. -/
structure Matcher.Legible (m : Matcher) : Prop where
  equal_not_mem : '=' ∉ m.label.toList
  bang_not_mem : '!' ∉ m.label.toList
  quote_not_mem : '"' ∉ m.value.toList

/-- A selector whose metric ends at the quote behind it, with legible matchers. -/
structure Selector.Legible (s : Selector) : Prop where
  quote_not_mem : '"' ∉ s.metric.toList
  matchers : ∀ m ∈ s.matchers, m.Legible

instance (m : Matcher) : Decidable m.Legible :=
  decidable_of_iff (('=' ∉ m.label.toList ∧ '!' ∉ m.label.toList) ∧ '"' ∉ m.value.toList)
    ⟨fun h => ⟨h.1.1, h.1.2, h.2⟩, fun h => ⟨⟨h.equal_not_mem, h.bang_not_mem⟩, h.quote_not_mem⟩⟩

instance (s : Selector) : Decidable s.Legible :=
  decidable_of_iff ('"' ∉ s.metric.toList ∧ ∀ m ∈ s.matchers, m.Legible)
    ⟨fun h => ⟨h.1, h.2⟩, fun h => ⟨h.quote_not_mem, h.matchers⟩⟩

namespace Expr

/-- No text in an expression holds the mark that ends it: labels to group by end at a comma or a
parenthesis, windows at a bracket. -/
def Legible : Expr → Prop
  | selector s => s.Legible
  | range s window => s.Legible ∧ ']' ∉ window.toList
  | call _ arg => arg.Legible
  | aggregate _ grouping arg =>
    (∀ label ∈ grouping, ',' ∉ label.toList ∧ ')' ∉ label.toList) ∧ arg.Legible
  | quantile _ arg => arg.Legible

/-- Whether an expression is legible can be decided. -/
def decidableLegible : (e : Expr) → Decidable e.Legible
  | selector s => inferInstanceAs (Decidable s.Legible)
  | range s window => inferInstanceAs (Decidable (s.Legible ∧ ']' ∉ window.toList))
  | call _ arg => arg.decidableLegible
  | aggregate _ grouping arg =>
    have := arg.decidableLegible
    inferInstanceAs (Decidable
      ((∀ label ∈ grouping, ',' ∉ label.toList ∧ ')' ∉ label.toList) ∧ arg.Legible))
  | quantile _ arg => arg.decidableLegible

instance (e : Expr) : Decidable e.Legible := e.decidableLegible

/-- The same expression, but for quantiles that differ without being written differently. -/
inductive Alike : Expr → Expr → Prop where
  | selector (s : Selector) : Alike (selector s) (selector s)
  | range (s : Selector) (window : String) : Alike (range s window) (range s window)
  | call {arg arg' : Expr} (f : Function) : Alike arg arg' → Alike (call f arg) (call f arg')
  | aggregate {arg arg' : Expr} (op : Operator) (grouping : List String) :
      Alike arg arg' → Alike (aggregate op grouping arg) (aggregate op grouping arg')
  | quantile {q q' : Float} {arg arg' : Expr} :
      Decimal.plainText q = Decimal.plainText q' → Alike arg arg' →
        Alike (quantile q arg) (quantile q' arg')

theorem Alike.render_eq {e e' : Expr} (h : Alike e e') : e.render = e'.render := by
  induction h with
  | selector s => rfl
  | range s window => rfl
  | call f _ ih => rw [render_call, render_call, ih]
  | aggregate op grouping _ ih =>
    by_cases hnil : grouping = []
    · rw [hnil, render_aggregate_nil, render_aggregate_nil, ih]
    · rw [render_aggregate hnil, render_aggregate hnil, ih]
  | quantile hq _ ih => rw [render_quantile, render_quantile, hq, ih]

end Expr

/-! ## Selectors -/

variable {rest rest' : List Char}

@[simp] theorem MatchOp.ofSign?_sign (op : MatchOp) : ofSign? op.sign = some op := by
  cases op <;> decide

/-- A label ends where its sign begins. -/
theorem MatchOp.head?_sign_append (op : MatchOp) :
    (op.sign.toList ++ rest).head?.any (fun c => c != '=' && c != '!') = false := by
  cases op <;> rfl

theorem Matcher.render_toList (m : Matcher) : m.render.toList ++ rest =
    m.label.toList ++ (m.op.sign.toList ++ '"' :: (m.value.toList ++ '"' :: rest)) := by
  simp [render]

/-- **A matcher ends where its text says so.** -/
theorem Matcher.eq_of_render_append {m m' : Matcher} (h : m.Legible) (h' : m'.Legible)
    (heq : m.render.toList ++ rest = m'.render.toList ++ rest') : m = m' ∧ rest = rest' := by
  have hlabel : ∀ {m : Matcher}, m.Legible →
      m.label.toList.all (fun c => c != '=' && c != '!') := by
    intro m hm
    rw [List.all_eq_true]
    intro c hc
    have hequal : c ≠ '=' := fun hce => hm.equal_not_mem (hce ▸ hc)
    have hbang : c ≠ '!' := fun hcb => hm.bang_not_mem (hcb ▸ hc)
    simp [hequal, hbang]
  rw [render_toList, render_toList] at heq
  obtain ⟨hlabels, heq⟩ := Text.append_inj_of_class (hlabel h) (hlabel h')
    m.op.head?_sign_append m'.op.head?_sign_append heq
  obtain ⟨hsigns, heq⟩ :=
    Text.append_cons_inj (quote_not_mem_sign m.op) (quote_not_mem_sign m'.op) heq
  obtain ⟨hvalues, hrest⟩ := Text.append_cons_inj h.quote_not_mem h'.quote_not_mem heq
  have hops : some m.op = some m'.op := by
    rw [← MatchOp.ofSign?_sign, ← MatchOp.ofSign?_sign, String.toList_inj.1 hsigns]
  obtain ⟨label, op, value⟩ := m
  obtain ⟨label', op', value'⟩ := m'
  rw [String.toList_inj] at hlabels hvalues
  cases hlabels
  cases hvalues
  cases hops
  exact ⟨rfl, hrest⟩

/-- The text of the matchers of a selector, up to its closing brace. -/
def matchersText (ms : List Matcher) (rest : List Char) : List Char :=
  (String.join (ms.map fun m => ", " ++ m.render)).toList ++ '}' :: rest

theorem matchersText_nil : matchersText [] rest = '}' :: rest := rfl

theorem matchersText_cons (m : Matcher) (ms : List Matcher) :
    matchersText (m :: ms) rest = ',' :: ' ' :: (m.render.toList ++ matchersText ms rest) := by
  simp [matchersText]

/-- **Matchers are found again in their row.** -/
theorem eq_of_matchersText : ∀ {ms ms' : List Matcher}, (∀ m ∈ ms, m.Legible) →
    (∀ m ∈ ms', m.Legible) → matchersText ms rest = matchersText ms' rest' →
      ms = ms' ∧ rest = rest'
  | [], [], _, _, heq => ⟨rfl, (List.cons.inj heq).2⟩
  | [], m :: ms', _, _, heq => by
    rw [matchersText_nil, matchersText_cons] at heq
    exact absurd (List.cons.inj heq).1 (by decide)
  | m :: ms, [], _, _, heq => by
    rw [matchersText_nil, matchersText_cons] at heq
    exact absurd (List.cons.inj heq).1 (by decide)
  | m :: ms, m' :: ms', h, h', heq => by
    rw [matchersText_cons, matchersText_cons] at heq
    obtain ⟨hm, heq⟩ := Matcher.eq_of_render_append (h m List.mem_cons_self)
      (h' m' List.mem_cons_self) (List.cons.inj (List.cons.inj heq).2).2
    obtain ⟨hms, hrest⟩ := eq_of_matchersText (fun x hx => h x (List.mem_cons_of_mem _ hx))
      (fun x hx => h' x (List.mem_cons_of_mem _ hx)) heq
    exact ⟨by rw [hm, hms], hrest⟩

theorem Selector.render_toList (s : Selector) : s.render.toList ++ rest =
    "\x7botel_metric_name = \"".toList ++ (s.metric.toList ++
      '"' :: (", otel_metric_type = \"".toList ++
        (s.kind.name.toList ++ '"' :: matchersText s.matchers rest))) := by
  simp [render, metricLabel, kindLabel, matchersText]

/-- **A selector ends where its text says so.** -/
theorem Selector.eq_of_render_append {s s' : Selector} (h : s.Legible) (h' : s'.Legible)
    (heq : s.render.toList ++ rest = s'.render.toList ++ rest') : s = s' ∧ rest = rest' := by
  rw [render_toList, render_toList] at heq
  obtain ⟨hmetric, heq⟩ := Text.append_cons_inj h.quote_not_mem h'.quote_not_mem
    (List.append_cancel_left heq)
  obtain ⟨hname, heq⟩ := Text.append_cons_inj (plain_kind_name s.kind).1
    (plain_kind_name s'.kind).1 (List.append_cancel_left heq)
  obtain ⟨hmatchers, hrest⟩ := eq_of_matchersText h.matchers h'.matchers heq
  have hkind : some s.kind = some s'.kind := by
    rw [← Metric.Kind.ofName?_name, ← Metric.Kind.ofName?_name, String.toList_inj.1 hname]
  obtain ⟨metric, kind, matchers⟩ := s
  obtain ⟨metric', kind', matchers'⟩ := s'
  rw [String.toList_inj] at hmetric
  cases hmetric
  cases hkind
  cases hmatchers
  exact ⟨rfl, hrest⟩

/-- A selector begins with a brace. -/
theorem Selector.exists_render_eq (s : Selector) : ∃ cs, s.render.toList = '{' :: cs := by
  refine ⟨s.render.toList.tail, ?_⟩
  have h : s.render.toList ++ [] = _ := s.render_toList
  rw [List.append_nil] at h
  rw [h]
  rfl

/-! ## Expressions -/

/-- What stands in front of the first parenthesis or brace of an expression. -/
inductive Opening where
  | series
  | function (f : Function)
  | operator (op : Operator)
  | quantile
  deriving DecidableEq, Repr

namespace Opening

/-- All openings. -/
def all : List Opening :=
  series :: quantile :: Function.all.map function ++
    [Operator.sum, .avg, .min, .max].map operator

/-- The written word of an opening. -/
def word : Opening → String
  | series => ""
  | function f => f.name
  | operator op => op.name
  | quantile => "histogram_quantile"

/-- The opening with the given word. -/
def ofWord? (text : String) : Option Opening := all.find? (·.word = text)

@[simp] theorem ofWord?_word (o : Opening) : ofWord? o.word = some o := by
  cases o with
  | series => decide
  | function f => cases f <;> decide
  | operator op => cases op <;> decide
  | quantile => decide

/-- Whether a character can stand in a word. -/
def isWordChar (c : Char) : Bool := c.isLower || c == '_'

theorem all_isWordChar_word (o : Opening) : o.word.toList.all isWordChar := by
  cases o with
  | series => decide
  | function f => cases f <;> decide
  | operator op => cases op <;> decide
  | quantile => decide

end Opening

namespace Expr

/-- The opening of an expression. -/
def opening : Expr → Opening
  | selector _ => .series
  | range _ _ => .series
  | call f _ => .function f
  | aggregate op _ _ => .operator op
  | quantile _ _ => .quantile

/-- The text behind the word of an expression, in front of another text. -/
def behind (rest : List Char) : Expr → List Char
  | selector s => s.render.toList ++ rest
  | range s window => s.render.toList ++ '[' :: (window.toList ++ ']' :: rest)
  | call _ arg => '(' :: (arg.render.toList ++ ')' :: rest)
  | aggregate _ [] arg => '(' :: (arg.render.toList ++ ')' :: rest)
  | aggregate _ (label :: labels) arg =>
    ' ' :: 'b' :: 'y' :: ' ' :: '(' :: ((Text.join ", " (label :: labels)).toList ++
      ')' :: ' ' :: '(' :: (arg.render.toList ++ ')' :: rest))
  | quantile q arg =>
    '(' :: ((Decimal.plainText q).toList ++ ',' :: ' ' :: (arg.render.toList ++ ')' :: rest))

theorem render_toList (e : Expr) :
    e.render.toList ++ rest = e.opening.word.toList ++ e.behind rest := by
  cases e with
  | selector s => simp [render_selector, opening, Opening.word, behind]
  | range s window => simp [render_range, opening, Opening.word, behind]
  | call f arg => simp [render_call, opening, Opening.word, behind]
  | aggregate op grouping arg =>
    cases grouping with
    | nil => simp [render_aggregate_nil, opening, Opening.word, behind]
    | cons label labels => simp [render_aggregate, opening, Opening.word, behind]
  | quantile q arg => simp [render_quantile, opening, Opening.word, behind]

theorem head?_behind (e : Expr) : (e.behind rest).head?.any Opening.isWordChar = false := by
  cases e with
  | selector s =>
    obtain ⟨cs, hcs⟩ := s.exists_render_eq
    rw [behind, hcs]
    rfl
  | range s window =>
    obtain ⟨cs, hcs⟩ := s.exists_render_eq
    rw [behind, hcs]
    rfl
  | call f arg => rfl
  | aggregate op grouping arg =>
    cases grouping with
    | nil => rfl
    | cons label labels => rfl
  | quantile q arg => rfl

/-- The word of an expression and the text behind it are read off its text. -/
theorem opening_eq_of_render_append {e e' : Expr}
    (heq : e.render.toList ++ rest = e'.render.toList ++ rest') :
    e.opening = e'.opening ∧ e.behind rest = e'.behind rest' := by
  rw [render_toList, render_toList] at heq
  obtain ⟨hword, hbehind⟩ := Text.append_inj_of_class e.opening.all_isWordChar_word
    e'.opening.all_isWordChar_word e.head?_behind e'.head?_behind heq
  have hopening : some e.opening = some e'.opening := by
    rw [← Opening.ofWord?_word, ← Opening.ofWord?_word, String.toList_inj.1 hword]
  exact ⟨Option.some.inj hopening, hbehind⟩

/-- The text inside parentheses, up to the closing one, which opens no window. -/
theorem head?_closing_ne : (')' :: rest).head? ≠ some '[' := by
  rw [List.head?_cons]
  decide

/-- **A bare series ends where its text says so**, unless a window could stand behind it. -/
theorem alike_of_series {e e' : Expr} (h : e.Legible) (h' : e'.Legible)
    (hseries : e.opening = .series) (hseries' : e'.opening = .series)
    (hrest : rest.head? ≠ some '[') (hrest' : rest'.head? ≠ some '[')
    (heq : e.behind rest = e'.behind rest') : e.Alike e' ∧ rest = rest' := by
  cases e with
  | selector s =>
    cases e' with
    | selector s' =>
      obtain ⟨rfl, hrests⟩ := Selector.eq_of_render_append h h' heq
      exact ⟨.selector s, hrests⟩
    | range s' window' =>
      obtain ⟨-, rfl⟩ := Selector.eq_of_render_append h h'.1 heq
      exact absurd rfl hrest
    | _ => cases hseries'
  | range s window =>
    cases e' with
    | selector s' =>
      obtain ⟨-, rfl⟩ := Selector.eq_of_render_append h.1 h' heq
      exact absurd rfl hrest'
    | range s' window' =>
      obtain ⟨rfl, hwindows⟩ := Selector.eq_of_render_append h.1 h'.1 heq
      obtain ⟨hwindow, hrests⟩ := Text.append_cons_inj h.2 h'.2 (List.cons.inj hwindows).2
      rw [String.toList_inj.1 hwindow]
      exact ⟨.range s window', hrests⟩
    | _ => cases hseries'
  | _ => cases hseries

/-- Labels to group by end at their parenthesis. -/
theorem paren_not_mem_join {labels : List String} (h : ∀ label ∈ labels, ')' ∉ label.toList) :
    ')' ∉ (Text.join ", " labels).toList := by
  induction labels with
  | nil => simp
  | cons label labels ih =>
    have hlabel := h label List.mem_cons_self
    cases labels with
    | nil => simpa using hlabel
    | cons other labels =>
      have hothers := ih fun x hx => h x (List.mem_cons_of_mem _ hx)
      rw [Text.join_cons_cons]
      simp [hlabel, hothers]

/-- **An expression ends where its text says so**, unless a window could stand behind it.  The
induction is on one expression for all others and all texts behind them, since the argument of a
function stands in front of a parenthesis. -/
theorem alike_of_render_append {e e' : Expr} (h : e.Legible) (h' : e'.Legible)
    (hrest : rest.head? ≠ some '[') (hrest' : rest'.head? ≠ some '[')
    (heq : e.render.toList ++ rest = e'.render.toList ++ rest') : e.Alike e' ∧ rest = rest' := by
  obtain ⟨hopening, hbehind⟩ := opening_eq_of_render_append heq
  clear heq
  induction e generalizing e' rest rest' with
  | selector s => exact alike_of_series h h' rfl hopening.symm hrest hrest' hbehind
  | range s window => exact alike_of_series h h' rfl hopening.symm hrest hrest' hbehind
  | call f arg ih =>
    cases e' with
    | call f' arg' =>
      cases hopening
      have hlegible' : arg'.Legible := h'
      obtain ⟨ho, hb⟩ := opening_eq_of_render_append (List.cons.inj hbehind).2
      obtain ⟨harg, hrests⟩ := ih h hlegible' head?_closing_ne head?_closing_ne ho hb
      exact ⟨.call f harg, (List.cons.inj hrests).2⟩
    | _ => cases hopening
  | aggregate op grouping arg ih =>
    cases e' with
    | aggregate op' grouping' arg' =>
      cases hopening
      -- one label or more is told from none by the blank behind the operator
      cases grouping with
      | nil =>
        cases grouping' with
        | nil =>
          obtain ⟨ho, hb⟩ := opening_eq_of_render_append (List.cons.inj hbehind).2
          obtain ⟨harg, hrests⟩ := ih h.2 h'.2 head?_closing_ne head?_closing_ne ho hb
          exact ⟨.aggregate op [] harg, (List.cons.inj hrests).2⟩
        | cons label' labels' => exact absurd (List.cons.inj hbehind).1 (by decide)
      | cons label labels =>
        cases grouping' with
        | nil => exact absurd (List.cons.inj hbehind).1 (by decide)
        | cons label' labels' =>
          simp only [behind, List.cons.injEq, true_and] at hbehind
          obtain ⟨hjoin, hbehind⟩ := Text.append_cons_inj
            (paren_not_mem_join fun x hx => (h.1 x hx).2)
            (paren_not_mem_join fun x hx => (h'.1 x hx).2) hbehind
          have hlabels := Text.join_inj (List.cons_ne_nil label labels)
            (List.cons_ne_nil label' labels') (fun x hx => (h.1 x hx).1)
            (fun x hx => (h'.1 x hx).1) (String.toList_inj.1 hjoin)
          simp only [List.cons.injEq, true_and] at hbehind
          obtain ⟨ho, hb⟩ := opening_eq_of_render_append hbehind
          obtain ⟨harg, hrests⟩ := ih h.2 h'.2 head?_closing_ne head?_closing_ne ho hb
          rw [hlabels]
          exact ⟨.aggregate op (label' :: labels') harg, (List.cons.inj hrests).2⟩
    | _ => cases hopening
  | quantile q arg ih =>
    cases e' with
    | quantile q' arg' =>
      have hlegible' : arg'.Legible := h'
      obtain ⟨hq, hbehind⟩ := Text.append_cons_inj (Decimal.not_mem_plainText q rfl)
        (Decimal.not_mem_plainText q' rfl) (List.cons.inj hbehind).2
      obtain ⟨ho, hb⟩ := opening_eq_of_render_append (List.cons.inj hbehind).2
      obtain ⟨harg, hrests⟩ := ih h hlegible' head?_closing_ne head?_closing_ne ho hb
      exact ⟨.quantile (String.toList_inj.1 hq) harg, (List.cons.inj hrests).2⟩
    | _ => cases hopening

/-- **Legible expressions have one text exactly if they are alike.** -/
theorem render_eq_render_iff {e e' : Expr} (h : e.Legible) (h' : e'.Legible) :
    e.render = e'.render ↔ e.Alike e' := by
  constructor
  · intro heq
    have hnil : ([] : List Char).head? ≠ some '[' := by decide
    exact (alike_of_render_append h h' hnil hnil (by rw [heq])).1
  · exact Alike.render_eq

/-- No grouping and the grouping by one empty label are told apart, around a matcher whose label and
value hold the marks of others. -/
theorem render_ne_of_blank_grouping :
    ∃ s : Selector, s.metric = "a, b\x7d" ∧
      s.matchers = [⟨"\"x\" ", .regexNotMatch, "=[2m]) by (le)"⟩] ∧
      (aggregate .sum [] (rate s)).Legible ∧ (aggregate .sum [""] (rate s)).Legible ∧
      (aggregate .sum [] (rate s)).render ≠ (aggregate .sum [""] (rate s)).render := by
  have h : (aggregate .sum [] (rate
      ⟨"a, b\x7d", .histogram, [⟨"\"x\" ", .regexNotMatch, "=[2m]) by (le)"⟩]⟩)).Legible := by
    decide
  have h' : (aggregate .sum [""] (rate
      ⟨"a, b\x7d", .histogram, [⟨"\"x\" ", .regexNotMatch, "=[2m]) by (le)"⟩]⟩)).Legible := by
    decide
  refine ⟨_, rfl, rfl, h, h', fun heq => ?_⟩
  cases (render_eq_render_iff h h').1 heq

end Expr

end DashQuery.Promql

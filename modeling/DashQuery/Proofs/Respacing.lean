import DashQuery.Conversion
import DashQuery.Proofs.Layout
import DashQuery.Proofs.WildcardLabels
import Mathlib.Data.List.Forall2

/-!
# Blanks and template variables

The layout of a query is not part of its meaning.  Blanks around a token or an attribute are
trimmed, and a template variable filters nothing.  But only the filters and the attributes are read
token by token.  The labels in front of wildcards and the modifiers are searched in the whole text,
so for these it has to be shown that the search neither reaches from a token into its surroundings
nor finds anything in what is put in.

* `IsTemplate`, `RespacedTokens`, `Layout.Respaced`: what may be changed in the layout of a query.
* `RespacedTokens.flatMap_eq`, `RespacedTokens.any_eq`: what overlooks padding and template
  variables reads the same from both lists of tokens.
* `Layout.parse_respaced`: the same query is read.
* `Converter.convert_respaced`: the same conversion is made of it.
-/

namespace DashQuery

namespace Query

/-! ## What may change -/

/-- A template variable: `$` and a name made of letters, digits and underscores, with `!` in front
if it is negated. -/
def IsTemplate (token : List Char) : Prop :=
  ∃ name : List Char, name.all isLabelChar = true ∧
    (token = '$' :: name ∨ token = '!' :: '$' :: name)

/-- The second list has the tokens of the first in their order, with any blanks put around each, and
any number of template variables between them. -/
inductive RespacedTokens : List (List Char) → List (List Char) → Prop where
  | nil : RespacedTokens [] []
  | token {t padded : List Char} {tokens respaced : List (List Char)} (h : Text.Padded t padded)
      (rest : RespacedTokens tokens respaced) : RespacedTokens (t :: tokens) (padded :: respaced)
  | template {v padded : List Char} {tokens respaced : List (List Char)} (hv : IsTemplate v)
      (h : Text.Padded v padded) (rest : RespacedTokens tokens respaced) :
      RespacedTokens tokens (padded :: respaced)

/-- The second layout differs from the first by blanks around the tokens and the attributes, and by
template variables in the selector. -/
structure Layout.Respaced (s s' : Layout) : Prop where
  aggregation : s'.aggregation = s.aggregation
  metric : s'.metric = s.metric
  tokens : RespacedTokens s.tokens s'.tokens
  groups : List.Forall₂ Text.Padded s.groups s'.groups
  tail : s'.tail = s.tail

/-! ## Template variables -/

namespace IsTemplate

variable {v : List Char}

/-- A template variable is made of its signs and label characters. -/
theorem not_mem (h : IsTemplate v) {c : Char} (hc : c ≠ '$' ∧ c ≠ '!' ∧ isLabelChar c = false) :
    c ∉ v := by
  obtain ⟨name, hname, hv⟩ := h
  have hmem : c ∉ name := by
    intro hmem
    rw [List.all_eq_true.1 hname c hmem] at hc
    exact Bool.noConfusion hc.2.2
  rcases hv with rfl | rfl <;> simp [hc.1, hc.2.1, hmem]

theorem isBlank_of_mem (h : IsTemplate v) {c : Char} (hc : c ∈ v) : Text.isBlank c = false := by
  by_cases hdollar : c = '$'
  · rw [hdollar]
    decide
  by_cases hsign : c = '!'
  · rw [hsign]
    decide
  by_cases hlabel : isLabelChar c = true
  · exact isBlank_eq_false_of_isLabelChar hlabel
  · rw [Bool.not_eq_true] at hlabel
    exact absurd hc (h.not_mem ⟨hdollar, hsign, hlabel⟩)

theorem trimmed (h : IsTemplate v) : Text.Trimmed v := by
  constructor
  · cases hhead : v.head? with
    | none => rfl
    | some c => exact h.isBlank_of_mem (List.mem_of_head? hhead)
  · cases hlast : v.getLast? with
    | none => rfl
    | some c => exact h.isBlank_of_mem (List.mem_of_getLast? hlast)

/-- **A template variable filters nothing**, negated or not. -/
theorem ofToken?_eq_none (h : IsTemplate v) : Filter.ofToken? v = none := by
  rw [Filter.ofToken?, Text.trim_eq_self h.trimmed]
  obtain ⟨name, -, rfl | rfl⟩ := h <;> rfl

theorem isPiece (h : IsTemplate v) : Layout.IsPiece v :=
  ⟨h.not_mem (by decide), h.not_mem (by decide), h.not_mem (by decide)⟩

/-- No wildcard can follow where there is no colon. -/
theorem wildcardLabels_eq_nil (h : IsTemplate v) : wildcardLabels v = [] :=
  Query.wildcardLabels_eq_nil (h.not_mem (by decide))

theorem hasInfix_eq_false (h : IsTemplate v) (m : Modifier) :
    Text.hasInfix m.written v = false :=
  Text.hasInfix_eq_false_of_not_mem m.dot_mem_written (h.not_mem (by decide))

end IsTemplate

/-! ## Padding -/

variable {t t' : List Char}

theorem ofToken?_padded (h : Text.Padded t t') : Filter.ofToken? t' = Filter.ofToken? t := by
  unfold Filter.ofToken?
  rw [h.trim_eq]

theorem hasInfix_padded (m : Modifier) (h : Text.Padded t t') :
    Text.hasInfix m.written t' = Text.hasInfix m.written t :=
  h.hasInfix_eq m.written_ne_nil m.isBlank_of_mem_written

/-- No mark is put around a text by padding it. -/
theorem Layout.IsPiece.padded (ht : Layout.IsPiece t) (h : Text.Padded t t') : Layout.IsPiece t' :=
  ⟨h.not_mem ht.1 (by decide), h.not_mem ht.2.1 (by decide), h.not_mem ht.2.2 (by decide)⟩

theorem map_trim_padded {names names' : List (List Char)}
    (h : List.Forall₂ Text.Padded names names') :
    names'.map (fun g => String.ofList (Text.trim g)) =
      names.map fun g => String.ofList (Text.trim g) := by
  induction h with
  | nil => rfl
  | cons hpad _ ih => rw [List.map_cons, List.map_cons, hpad.trim_eq, ih]

/-! ## Lists of tokens -/

namespace RespacedTokens

variable {tokens respaced : List (List Char)}

/-- **What is read of each token** and overlooks padding, and is nothing of a template variable. -/
theorem flatMap_eq {α : Type} {read : List Char → List α} (h : RespacedTokens tokens respaced)
    (hpadded : ∀ t padded, Text.Padded t padded → read padded = read t)
    (htemplate : ∀ v, IsTemplate v → read v = []) :
    respaced.flatMap read = tokens.flatMap read := by
  induction h with
  | nil => rfl
  | token hpad _ ih => rw [List.flatMap_cons, List.flatMap_cons, hpadded _ _ hpad, ih]
  | template hv hpad _ ih =>
    rw [List.flatMap_cons, hpadded _ _ hpad, htemplate _ hv, ih, List.nil_append]

/-- **What is found in some token**, by a search that overlooks padding and finds no template
variable. -/
theorem any_eq {found : List Char → Bool} (h : RespacedTokens tokens respaced)
    (hpadded : ∀ t padded, Text.Padded t padded → found padded = found t)
    (htemplate : ∀ v, IsTemplate v → found v = false) : respaced.any found = tokens.any found := by
  induction h with
  | nil => rfl
  | token hpad _ ih => rw [List.any_cons, List.any_cons, hpadded _ _ hpad, ih]
  | template hv hpad _ ih =>
    rw [List.any_cons, hpadded _ _ hpad, htemplate _ hv, ih, Bool.false_or]

theorem filterMap_ofToken? (h : RespacedTokens tokens respaced) :
    respaced.filterMap Filter.ofToken? = tokens.filterMap Filter.ofToken? := by
  rw [List.filterMap_eq_flatMap_toList, List.filterMap_eq_flatMap_toList]
  refine h.flatMap_eq (fun t padded hpad => ?_) (fun v hv => ?_)
  · rw [ofToken?_padded hpad]
  · rw [hv.ofToken?_eq_none]
    rfl

theorem flatMap_wildcardLabels (h : RespacedTokens tokens respaced) :
    respaced.flatMap wildcardLabels = tokens.flatMap wildcardLabels :=
  h.flatMap_eq (fun _ _ => wildcardLabels_padded) (fun _ hv => hv.wildcardLabels_eq_nil)

theorem any_hasInfix (h : RespacedTokens tokens respaced) (m : Modifier) :
    respaced.any (Text.hasInfix m.written) = tokens.any (Text.hasInfix m.written) :=
  h.any_eq (fun _ _ => hasInfix_padded m) (fun _ hv => hv.hasInfix_eq_false m)

/-- What can stand between commas still can. -/
theorem isPiece (h : RespacedTokens tokens respaced) (ht : ∀ t ∈ tokens, Layout.IsPiece t) :
    ∀ t ∈ respaced, Layout.IsPiece t := by
  induction h with
  | nil => exact ht
  | token hpad _ ih =>
    rw [List.forall_mem_cons] at ht ⊢
    exact ⟨Layout.IsPiece.padded ht.1 hpad, ih ht.2⟩
  | template hv hpad _ ih =>
    rw [List.forall_mem_cons]
    exact ⟨Layout.IsPiece.padded hv.isPiece hpad, ih ht⟩

/-- Padding alone: nothing is put between the tokens. -/
theorem of_forall₂ (h : List.Forall₂ Text.Padded tokens respaced) :
    RespacedTokens tokens respaced := by
  induction h with
  | nil => exact nil
  | cons hpad _ ih => exact token hpad ih

end RespacedTokens

/-! ## The whole query -/

namespace Layout

variable {s s' : Layout}

theorem Respaced.groups_eq_nil_iff (hs : s.Respaced s') : s'.groups = [] ↔ s.groups = [] := by
  rw [← List.length_eq_zero_iff, ← List.length_eq_zero_iff, hs.groups.length_eq]

/-- The attributes are the same. -/
theorem names_respaced (hs : s.Respaced s') : s'.names = s.names :=
  map_trim_padded hs.groups

/-- The labels in front of wildcards are the same. -/
theorem wildcardLabels_selector_respaced (hs : s.Respaced s') :
    wildcardLabels s'.selector = wildcardLabels s.selector := by
  have hcomma : IsBreak ',' := by decide
  rw [selector, selector, wildcardLabels_intercalate hcomma, wildcardLabels_intercalate hcomma,
    hs.tokens.flatMap_wildcardLabels]

/-- The modifiers are the same. -/
theorem hasInfix_respaced (hs : s.Respaced s') (m : Modifier) :
    Text.hasInfix m.written s'.written = Text.hasInfix m.written s.written := by
  have hfront : s'.front = s.front := by
    rw [front, front, hs.aggregation, hs.metric]
  rw [hasInfix_written, hasInfix_written, hfront, hs.tail, hs.tokens.any_hasInfix m,
    (RespacedTokens.of_forall₂ hs.groups).any_hasInfix m]

/-- A readable layout stays readable. -/
theorem Readable.respaced (h : s.Readable) (hs : s.Respaced s') : s'.Readable where
  rank := hs.aggregation ▸ h.rank
  metric_ne := hs.metric ▸ h.metric_ne
  metric_marks := hs.metric ▸ h.metric_marks
  metric_trimmed := hs.metric ▸ h.metric_trimmed
  tokens := hs.tokens.isPiece h.tokens
  groups := (RespacedTokens.of_forall₂ hs.groups).isPiece h.groups
  groups_ne := by
    -- a name that is padded to the empty text was empty before
    intro hsingle
    have hgroups := hs.groups
    rw [hsingle, List.forall₂_cons_right_iff] at hgroups
    obtain ⟨g, rest, ⟨front, back, -, -, hg⟩, hrest, hcons⟩ := hgroups
    rw [List.forall₂_nil_right_iff] at hrest
    simp only [List.nil_eq, List.append_eq_nil_iff] at hg
    rw [hrest, hg.1.2] at hcons
    exact h.groups_ne hcons
  tail_marks := hs.tail ▸ h.tail_marks

/-- **The same query is read from another layout of it.** -/
theorem parse_respaced (h : s.Readable) (hs : s.Respaced s') (labels : Label.Table) :
    parse s'.text labels = parse s.text labels := by
  rw [parse_eq h, parse_eq (h.respaced hs)]
  simp only [hs.aggregation, hs.metric, hs.tokens.filterMap_ofToken?, hs.groups_eq_nil_iff,
    names_respaced hs, wildcardLabels_selector_respaced hs, hasInfix_respaced hs]

end Layout

end Query

namespace Converter

open Query

/-- **Layout and template variables do not matter.**  Put blanks around the tokens of the selector
and around the attributes of the by clause, and put template variables between the tokens: the
query is still converted, whatever the tables are, and neither its PromQL nor its title changes. -/
theorem convert_respaced (c : Converter) {s s' : Layout} (h : s.Readable) (hs : s.Respaced s') :
    ∃ r r', c.convert s.text = .ok r ∧ c.convert s'.text = .ok r' ∧
      r'.promql = r.promql ∧ r'.title = r.title := by
  obtain ⟨q, hq⟩ : ∃ q, parse s.text c.labels = .ok q := ⟨_, Layout.parse_eq h c.labels⟩
  have hq' : parse s'.text c.labels = .ok q := (Layout.parse_respaced h hs c.labels).trans hq
  refine ⟨(c.convertQuery s.text q).1, (c.convertQuery s'.text q).1, ?_, ?_, rfl, rfl⟩
  · rw [convert, hq]
  · rw [convert, hq']

/-- A query with wildcards, a nameless attribute and a modifier, written without blanks. -/
def compactLayout : Layout :=
  { aggregation := .count
    metric := "latency"
    tokens := ["host:*".toList, "!status:5*".toList]
    groups := ["host".toList, []]
    tail := asCountText.toList }

/-- The same query with blanks and template variables. -/
def spacedLayout : Layout :=
  { compactLayout with
    tokens := ["$env".toList, " host:*\t".toList, "!$v1 ".toList, "!status:5*".toList]
    groups := [" host".toList, [' ', ' ']] }

theorem convert_respaced_compactLayout :
    compactLayout.text =
        "count:latency\x7bhost:*,!status:5*\x7d by \x7bhost,\x7d.as_count()" ∧
      spacedLayout.text =
        "count:latency\x7b$env, host:*\t,!$v1 ,!status:5*\x7d by \x7b host,  \x7d.as_count()" ∧
      compactLayout.Readable ∧ compactLayout.Respaced spacedLayout ∧
      ∃ r r', convert ⟨⟨[]⟩, .empty⟩ compactLayout.text = .ok r ∧
        convert ⟨⟨[]⟩, .empty⟩ spacedLayout.text = .ok r' ∧
        r'.promql = r.promql ∧ r'.title = r.title := by
  have hreadable : compactLayout.Readable := by
    constructor
    case rank =>
      rintro rank ⟨⟩
    all_goals decide
  have hspaced : compactLayout.Respaced spacedLayout := by
    have hhost : Text.Padded "host".toList " host".toList := ⟨[' '], [], by decide, by decide, rfl⟩
    have hblank : Text.Padded [] [' ', ' '] := ⟨[' ', ' '], [], by decide, by decide, rfl⟩
    refine ⟨rfl, rfl, ?_, .cons hhost (.cons hblank .nil), rfl⟩
    refine .template ⟨"env".toList, by decide, Or.inl rfl⟩ (.refl _) ?_
    refine .token ⟨[' '], ['\t'], by decide, by decide, rfl⟩ ?_
    refine .template ⟨"v1".toList, by decide, Or.inr rfl⟩ ⟨[], [' '], by decide, by decide, rfl⟩ ?_
    exact .token (.refl _) .nil
  exact ⟨by decide, by decide, hreadable, hspaced,
    convert_respaced ⟨⟨[]⟩, .empty⟩ hreadable hspaced⟩

end Converter

end DashQuery

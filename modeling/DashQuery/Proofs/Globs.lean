import DashQuery.Proofs.Replacing
import DashQuery.Query.Filter

/-!
# Wildcard filters as globs

The value of a wildcard filter is a glob: `*` stands for any characters, `?` for any one, and every
other character for itself.  Its matcher has a regular expression, made by putting `.*` and `.` in
the place of the two.  The other characters are not escaped, so they keep their meaning only if none
of them is an operator.

* `GlobMatches`, `Filter.Selects`: what a filter is meant to accept.
* `Promql.Matcher.Accepts`: what its matcher accepts.
* `Filter.accepts_iff_of_isLiteral`: without other operators the two are the same.
* `Filter.accepts_iff_loosened`: a dot stands for any character.
* `Filter.keepsGlob_iff`: when a wildcard filter keeps its meaning.
-/

namespace DashQuery.Promql

open DashQuery.Pattern

/-- The values of its label that a matcher accepts.  A pattern has to be well formed and is matched
with the whole value, where a dot may match the end of a line or not. -/
def Matcher.Accepts (dotAll : Bool) (m : Matcher) (value : String) : Prop :=
  match m.op with
  | .equal => value = m.value
  | .notEqual => value ≠ m.value
  | .regexMatch => ∃ r, Regexp.parseDotted? dotAll m.value.toList = some r ∧
      Spans value.toList r 0 value.toList.length
  | .regexNotMatch => ∃ r, Regexp.parseDotted? dotAll m.value.toList = some r ∧
      ¬ Spans value.toList r 0 value.toList.length

end DashQuery.Promql

namespace DashQuery.Query

open DashQuery.Pattern

variable {dotAll : Bool} {glob text : List Char} {c : Char}

/-! ## Globs -/

/-- The text matches the glob. -/
inductive GlobMatches : List Char → List Char → Prop where
  | nil : GlobMatches [] []
  | star {glob back : List Char} (front : List Char) :
      GlobMatches glob back → GlobMatches ('*' :: glob) (front ++ back)
  | single {glob text : List Char} (c : Char) :
      GlobMatches glob text → GlobMatches ('?' :: glob) (c :: text)
  | literal {glob text : List Char} {c : Char} :
      isWildcardChar c = false → GlobMatches glob text → GlobMatches (c :: glob) (c :: text)

theorem globMatches_nil_iff : GlobMatches [] text ↔ text = [] := by
  constructor
  · rintro ⟨⟩
    rfl
  · rintro rfl
    exact .nil

theorem globMatches_star_iff :
    GlobMatches ('*' :: glob) text ↔ ∃ n ≤ text.length, GlobMatches glob (text.drop n) := by
  constructor
  · intro h
    cases h with
    | star front h => exact ⟨front.length, by simp, by rwa [List.drop_left]⟩
    | literal hc h => exact absurd hc (by decide)
  · rintro ⟨n, -, h⟩
    rw [← List.take_append_drop n text]
    exact .star _ h

theorem globMatches_single_iff :
    GlobMatches ('?' :: glob) text ↔ ∃ c rest, text = c :: rest ∧ GlobMatches glob rest := by
  constructor
  · intro h
    cases h with
    | single c h => exact ⟨c, _, rfl, h⟩
    | literal hc h => exact absurd hc (by decide)
  · rintro ⟨c, rest, rfl, h⟩
    exact .single c h

theorem globMatches_literal_iff (hc : isWildcardChar c = false) :
    GlobMatches (c :: glob) text ↔ ∃ rest, text = c :: rest ∧ GlobMatches glob rest := by
  constructor
  · intro h
    cases h with
    | star front h => exact absurd hc (by decide)
    | single d h => exact absurd hc (by decide)
    | literal _ h => exact ⟨_, rfl, h⟩
  · rintro ⟨rest, rfl, h⟩
    exact .literal hc h

/-- What a glob matches holds every character of it that stands for itself. -/
theorem GlobMatches.mem (h : GlobMatches glob text) (hc : isWildcardChar c = false)
    (hmem : c ∈ glob) : c ∈ text := by
  induction h with
  | nil => exact hmem
  | star front h ih =>
    obtain rfl | hmem := List.mem_cons.1 hmem
    · exact absurd hc (by decide)
    · exact List.mem_append_right _ (ih hmem)
  | single d h ih =>
    obtain rfl | hmem := List.mem_cons.1 hmem
    · exact absurd hc (by decide)
    · exact List.mem_cons_of_mem _ (ih hmem)
  | literal hd h ih =>
    obtain rfl | hmem := List.mem_cons.1 hmem
    · exact List.mem_cons_self
    · exact List.mem_cons_of_mem _ (ih hmem)

/-- Every glob matches some text, which ends no line unless the glob does. -/
theorem exists_globMatches (glob : List Char) :
    ∃ text, GlobMatches glob text ∧ ('\n' ∈ text → '\n' ∈ glob) := by
  induction glob with
  | nil => exact ⟨[], .nil, id⟩
  | cons c glob ih =>
    obtain ⟨text, htext, hline⟩ := ih
    by_cases hstar : c = '*'
    · subst hstar
      exact ⟨[] ++ text, .star [] htext, fun h => List.mem_cons_of_mem _ (hline h)⟩
    by_cases hquestion : c = '?'
    · subst hquestion
      refine ⟨'x' :: text, .single 'x' htext, fun h => List.mem_cons_of_mem _ (hline ?_)⟩
      exact (List.mem_cons.1 h).resolve_left (by decide)
    · refine ⟨c :: text, .literal (by simp [isWildcardChar, hstar, hquestion]) htext, fun h => ?_⟩
      exact (List.mem_cons.1 h).elim (fun h => h ▸ List.mem_cons_self)
        fun h => List.mem_cons_of_mem _ (hline h)

/-! ## The pattern of a glob -/

/-- What stands for a character of a glob in its pattern. -/
def globText (c : Char) : List Char :=
  if c = '*' then ['.', '*'] else if c = '?' then ['.'] else [c]

/-- The item that a character of a glob is read as, if it is no other operator. -/
def globItem (dotAll : Bool) (c : Char) : Pattern.Part Regexp :=
  if c = '*' then ⟨.repeated (.set (dotSet dotAll)) 0 none, 1⟩
  else if c = '?' then ⟨.set (dotSet dotAll), 0⟩
  else ⟨.set (.single c), 0⟩

/-- A character of a glob is one of the two wildcards or stands for itself. -/
@[elab_as_elim]
theorem glob_cases {motive : Char → Prop} (c : Char) (star : motive '*') (question : motive '?')
    (literal : isWildcardChar c = false → globText c = [c] →
      (∀ dotAll, globItem dotAll c = ⟨.set (.single c), 0⟩) → motive c) : motive c := by
  by_cases hstar : c = '*'
  · exact hstar ▸ star
  by_cases hquestion : c = '?'
  · exact hquestion ▸ question
  · refine literal ?_ ?_ ?_
    · simp [isWildcardChar, hstar, hquestion]
    · rw [globText, if_neg hstar, if_neg hquestion]
    · intro dotAll
      rw [globItem, if_neg hstar, if_neg hquestion]

theorem toList_globPattern (value : String) :
    (Filter.globPattern value).toList = value.toList.flatMap globText := by
  rw [Filter.globPattern, String.toList_ofList, Text.replaceChar, Text.replaceChar,
    List.flatMap_assoc]
  congr 1
  funext c
  unfold globText
  split
  · rfl
  · rw [List.flatMap_singleton]

/-- A glob whose other characters are no operators. -/
def IsLiteralGlob (glob : List Char) : Prop :=
  ∀ c ∈ glob, c ∈ operators → isWildcardChar c = true

instance (glob : List Char) : Decidable (IsLiteralGlob glob) :=
  List.decidableBAll (fun c => c ∈ operators → isWildcardChar c = true) glob

theorem mem_globText_cases {d : Char} (h : c ∈ globText d) :
    c = '.' ∨ c = '*' ∨ c = d ∧ isWildcardChar d = false := by
  induction d using glob_cases with
  | star =>
    have hmem : c ∈ ['.', '*'] := h
    simp only [List.mem_cons, List.not_mem_nil, or_false] at hmem
    exact hmem.imp_right .inl
  | question => exact .inl (List.mem_singleton.1 h)
  | literal hliteral htext _ =>
    rw [htext, List.mem_singleton] at h
    exact .inr (.inr ⟨h, hliteral⟩)

/-- The pattern of a glob has no `?`, so no repetition in it is lazy and no flags are set. -/
theorem question_not_mem_pattern (glob : List Char) : '?' ∉ glob.flatMap globText := by
  rw [List.mem_flatMap]
  rintro ⟨d, -, h⟩
  obtain h | h | ⟨rfl, h⟩ := mem_globText_cases h
  · exact absurd h (by decide)
  · exact absurd h (by decide)
  · exact absurd h (by decide)

theorem skipLazy_of_not_mem {cs : List Char} (h : '?' ∉ cs) : skipLazy cs = cs := by
  unfold skipLazy
  split
  · exact absurd List.mem_cons_self h
  · rfl

/-- **Reading the pattern of a glob without other operators.**  Every character is one item. -/
theorem run_ofItems_glob (hglob : IsLiteralGlob glob) (items : List (Pattern.Part Regexp)) :
    run (.ofItems dotAll items) (glob.flatMap globText) =
      some (.ofItems dotAll ((glob.map (globItem dotAll)).reverse ++ items)) := by
  induction glob generalizing items with
  | nil => exact run_empty _
  | cons c glob ih =>
    obtain ⟨hc, hglob⟩ := List.forall_mem_cons.1 hglob
    have hitem : run (.ofItems dotAll items) (globText c ++ glob.flatMap globText) =
        run (.ofItems dotAll (globItem dotAll c :: items)) (glob.flatMap globText) := by
      induction c using glob_cases with
      | star =>
        -- no question mark follows that would make the star lazy
        refine run_ofItems_dot.trans (run_ofItems_star.trans ?_)
        rw [List.append_eq, List.nil_append, skipLazy_of_not_mem (question_not_mem_pattern glob)]
        rfl
      | question => exact run_ofItems_dot
      | literal hliteral htext hitem =>
        rw [htext, hitem]
        refine run_ofItems_leaf (readOutside?_of_not_operator fun hop => ?_)
        rw [hc hop] at hliteral
        cases hliteral
    rw [List.flatMap_cons, hitem, ih hglob, List.map_cons, List.reverse_cons, List.append_assoc]
    rfl

theorem parseDotted?_glob (hglob : IsLiteralGlob glob) :
    Regexp.parseDotted? dotAll (glob.flatMap globText) =
      some (.row (glob.map fun c => (globItem dotAll c).value)) := by
  have hdepth : ∀ item ∈ (glob.map (globItem dotAll)).reverse, item.depth < maxDepth := by
    intro item hitem
    obtain ⟨c, -, rfl⟩ := List.mem_map.1 (List.mem_reverse.1 hitem)
    induction c using glob_cases with
    | star => exact Nat.le_of_ble_eq_true rfl
    | question => exact Nat.le_of_ble_eq_true rfl
    | literal _ _ hleaf => rw [hleaf]; exact Nat.le_of_ble_eq_true rfl
  rw [Regexp.parseDotted?, run_ofItems_glob hglob, Option.bind_some, List.append_nil,
    State.finish?_ofItems hdepth, List.reverse_reverse, List.map_map]
  rfl

/-- **What the pattern of a glob spans**: the texts that the glob matches. -/
theorem spans_row_glob_iff (glob : List Char) (hline : dotAll = true ∨ '\n' ∉ text) {i : Nat}
    (hi : i ≤ text.length) :
    Spans text (.row (glob.map fun c => (globItem dotAll c).value)) i text.length ↔
      GlobMatches glob (text.drop i) := by
  have hall : ∀ c ∈ text, (dotSet dotAll).contains c = true := fun c hc =>
    contains_dotSet_iff.2 (hline.imp_right fun hnot heq => hnot (heq ▸ hc))
  induction glob generalizing i with
  | nil =>
    rw [globMatches_nil_iff, List.drop_eq_nil_iff]
    refine spans_empty_iff.trans ⟨fun h => Nat.le_of_eq h.1.symm, fun h => ?_⟩
    exact ⟨Nat.le_antisymm hi h, hi⟩
  | cons c glob ih =>
    rw [List.map_cons, Regexp.row_cons, spans_concat_iff]
    induction c using glob_cases with
    | star =>
      have hitem : (globItem dotAll '*').value = .repeated (.set (dotSet dotAll)) 0 none := rfl
      rw [hitem, globMatches_star_iff]
      simp only [Regexp.spans_repeated_set_iff hall, List.drop_drop, List.length_drop]
      constructor
      · rintro ⟨j, ⟨hij, hj⟩, h⟩
        refine ⟨j - i, Nat.sub_le_sub_right hj i, ?_⟩
        rw [Nat.add_sub_cancel' hij]
        exact (ih hj).1 h
      · rintro ⟨n, hn, h⟩
        have hj : i + n ≤ text.length := by omega
        exact ⟨i + n, ⟨Nat.le_add_right i n, hj⟩, (ih hj).2 h⟩
    | question =>
      have hitem : (globItem dotAll '?').value = .set (dotSet dotAll) := rfl
      rw [hitem, globMatches_single_iff]
      simp only [spans_set_iff, drop_eq_cons_iff]
      constructor
      · rintro ⟨_, ⟨rfl, d, hd, -⟩, h⟩
        have hi' : i < text.length := (List.getElem?_eq_some_iff.1 hd).1
        exact ⟨d, _, ⟨hd, rfl⟩, (ih hi').1 h⟩
      · rintro ⟨d, _, ⟨hd, rfl⟩, h⟩
        have hi' : i < text.length := (List.getElem?_eq_some_iff.1 hd).1
        exact ⟨i + 1, ⟨rfl, d, hd, hall d (List.mem_of_getElem? hd)⟩, (ih hi').2 h⟩
    | literal hc _ hitem =>
      rw [hitem, globMatches_literal_iff hc]
      simp only [Regexp.spans_literal_iff, drop_eq_cons_iff]
      constructor
      · rintro ⟨_, ⟨rfl, hd⟩, h⟩
        have hi' : i < text.length := (List.getElem?_eq_some_iff.1 hd).1
        exact ⟨_, ⟨hd, rfl⟩, (ih hi').1 h⟩
      · rintro ⟨_, ⟨hd, rfl⟩, h⟩
        have hi' : i < text.length := (List.getElem?_eq_some_iff.1 hd).1
        exact ⟨i + 1, ⟨rfl, hd⟩, (ih hi').2 h⟩

/-! ## Filters -/

namespace Filter

variable {f : Filter} {table : Label.Table} {value : String}

/-- What a wildcard filter is meant to accept: the values that its glob matches, or all others if it
is negated. -/
def Selects (f : Filter) (text : String) : Prop :=
  if f.negated = true then ¬ GlobMatches f.value.toList text.toList
  else GlobMatches f.value.toList text.toList

/-- The matcher of a filter accepts what the filter is meant to accept.  If a dot does not match the
end of a line, this is asked for the values of one line only. -/
def KeepsGlob (dotAll : Bool) (f : Filter) (table : Label.Table) : Prop :=
  ∀ text : String, dotAll = true ∨ '\n' ∉ text.toList →
    ((f.matcher table).Accepts dotAll text ↔ f.Selects text)

/-- A matcher with the pattern of a glob without other operators selects by the glob. -/
theorem accepts_iff_of_pattern {g : Filter} (hwild : f.wildcard = true)
    (hnegated : g.negated = f.negated) (hpattern : globPattern g.value = globPattern f.value)
    (hglob : IsLiteralGlob g.value.toList) {text : String}
    (hline : dotAll = true ∨ '\n' ∉ text.toList) :
    (f.matcher table).Accepts dotAll text ↔ g.Selects text := by
  have hparse : Regexp.parseDotted? dotAll (globPattern f.value).toList =
      some (.row (g.value.toList.map fun c => (globItem dotAll c).value)) := by
    rw [← hpattern, toList_globPattern, parseDotted?_glob hglob]
  have hspans := spans_row_glob_iff g.value.toList hline (Nat.zero_le _)
  rw [List.drop_zero] at hspans
  unfold Selects matcher
  rw [hwild, hnegated]
  cases f.negated with
  | false => simp [Promql.Matcher.Accepts, hparse, hspans]
  | true => simp [Promql.Matcher.Accepts, hparse, hspans]

/-- **Without other operators a wildcard filter keeps its meaning.** -/
theorem keepsGlob_of_isLiteral (hwild : f.wildcard = true) (hglob : IsLiteralGlob f.value.toList) :
    f.KeepsGlob dotAll table :=
  fun _ hline => accepts_iff_of_pattern hwild rfl rfl hglob hline

/-- The filter with a `?` in the place of every dot of its value. -/
def loosened (f : Filter) : Filter :=
  { f with value := String.ofList (f.value.toList.map fun c => if c = '.' then '?' else c) }

theorem globPattern_loosened (f : Filter) : globPattern f.loosened.value = globPattern f.value := by
  rw [← String.toList_inj, toList_globPattern, toList_globPattern, loosened, String.toList_ofList,
    List.flatMap_map]
  congr 1
  funext c
  by_cases hdot : c = '.'
  · subst hdot
    rfl
  · rw [if_neg hdot]

/-- A glob whose other characters are no operators but dots. -/
def IsDottedGlob (glob : List Char) : Prop :=
  ∀ c ∈ glob, c ∈ operators → isWildcardChar c = true ∨ c = '.'

instance (glob : List Char) : Decidable (IsDottedGlob glob) :=
  List.decidableBAll (fun c => c ∈ operators → isWildcardChar c = true ∨ c = '.') glob

/-- **Dots of the value act as question marks** if it has no other operators. -/
theorem accepts_iff_loosened (hwild : f.wildcard = true) (hdots : IsDottedGlob f.value.toList)
    {text : String} (hline : dotAll = true ∨ '\n' ∉ text.toList) :
    (f.matcher table).Accepts dotAll text ↔ f.loosened.Selects text := by
  refine accepts_iff_of_pattern (g := f.loosened) hwild rfl f.globPattern_loosened ?_ hline
  rw [loosened, String.toList_ofList, IsLiteralGlob, List.forall_mem_map]
  intro c hc
  by_cases hdot : c = '.'
  · rw [if_pos hdot]
    exact fun _ => rfl
  · rw [if_neg hdot]
    exact fun hop => (hdots c hc hop).resolve_right hdot

/-- The characters by which a pattern could name an operator. -/
def quoters : List Char := ['[', '\x7b', '\\']

/-- A glob whose pattern can name no operator. -/
def IsUnquotedGlob (glob : List Char) : Prop := ∀ c ∈ glob, c ∉ quoters

instance (glob : List Char) : Decidable (IsUnquotedGlob glob) :=
  List.decidableBAll (fun c => c ∉ quoters) glob

theorem not_mem_shifters_of_mem_pattern {glob : List Char} (hglob : IsUnquotedGlob glob) {c : Char}
    (hc : c ∈ glob.flatMap globText) : c ∉ shifters := by
  obtain ⟨d, hd, hmem⟩ := List.mem_flatMap.1 hc
  obtain rfl | rfl | ⟨rfl, hliteral⟩ := mem_globText_cases hmem
  · decide
  · decide
  · intro h
    have hquoters : c ∉ quoters := hglob c hd
    simp only [shifters, quoters, List.mem_cons, List.not_mem_nil, or_false, not_or] at h hquoters
    obtain h | h | h | rfl := h
    · exact hquoters.1 h
    · exact hquoters.2.1 h
    · exact hquoters.2.2 h
    · exact absurd hliteral (by decide)

/-- What such a pattern matches, it matches with a letter in the place of an operator too. -/
theorem spans_withLetter_globPattern (hglob : IsUnquotedGlob value.toList) (hc : c ∈ operators)
    {r : Regexp} (hr : Regexp.parseDotted? dotAll (globPattern value).toList = some r)
    (h : Spans text r 0 text.length) :
    Spans (withLetter c text) r 0 (withLetter c text).length := by
  rw [toList_globPattern] at hr
  exact Regexp.spans_withLetter hc (fun d hd => not_mem_shifters_of_mem_pattern hglob hd) hr h

/-- **With another operator a wildcard filter loses its meaning**, if its pattern cannot name the
operator in another way.  Every text that the glob matches holds the operator, but the pattern
matches the text without it too. -/
theorem isLiteral_of_keepsGlob (hwild : f.wildcard = true)
    (hquoters : IsUnquotedGlob f.value.toList) (hline : dotAll = true ∨ '\n' ∉ f.value.toList)
    (hkeeps : f.KeepsGlob dotAll table) :
    IsLiteralGlob f.value.toList := by
  intro c hc hop
  cases hliteral : isWildcardChar c with
  | true => rfl
  | false =>
    exfalso
    -- a text that the glob matches, and the same text without the operator
    obtain ⟨cs, hcs, hends⟩ := exists_globMatches f.value.toList
    have hwithout : ¬ GlobMatches f.value.toList (withLetter c cs) := fun h =>
      not_mem_withLetter hop (h.mem hliteral hc)
    have hone := hkeeps (String.ofList cs) <| hline.imp_right fun hnot h => by
      rw [String.toList_ofList] at h
      exact hnot (hends h)
    have hother := hkeeps (String.ofList (withLetter c cs)) <| hline.imp_right fun hnot h => by
      rw [String.toList_ofList] at h
      exact hnot (hends (newline_of_mem_withLetter h))
    simp only [Selects, matcher, hwild, String.toList_ofList] at hone hother
    cases hnegated : f.negated with
    | false =>
      simp only [hnegated, Promql.Matcher.Accepts, String.toList_ofList] at hone hother
      obtain ⟨r, hr, h⟩ := hone.2 hcs
      exact hwithout (hother.1 ⟨r, hr, spans_withLetter_globPattern hquoters hop hr h⟩)
    | true =>
      simp only [hnegated, Promql.Matcher.Accepts, String.toList_ofList] at hone hother
      obtain ⟨r, hr, h⟩ := hother.2 hwithout
      refine hone.1 ⟨r, hr, fun hspans => h ?_⟩ hcs
      exact spans_withLetter_globPattern hquoters hop hr hspans

/-- **When a wildcard filter keeps its meaning.**  If its value has no operators but the wildcards,
the matcher accepts exactly the values that the filter is meant to accept, also if it is negated.
If it has dots besides, each of them stands for any character.  A value without brackets, braces and
backslashes that has any other operator makes the filter lose its meaning. -/
theorem keepsGlob_iff (f : Filter) (table : Label.Table) (dotAll : Bool)
    (hwild : f.wildcard = true) :
    (IsLiteralGlob f.value.toList → f.KeepsGlob dotAll table) ∧
      (IsDottedGlob f.value.toList → ∀ text : String, dotAll = true ∨ '\n' ∉ text.toList →
          ((f.matcher table).Accepts dotAll text ↔ f.loosened.Selects text)) ∧
      (IsUnquotedGlob f.value.toList → dotAll = true ∨ '\n' ∉ f.value.toList →
        (f.KeepsGlob dotAll table ↔ IsLiteralGlob f.value.toList)) :=
  ⟨keepsGlob_of_isLiteral hwild,
    fun hdots _ hline => accepts_iff_loosened hwild hdots hline,
    fun hquoters hline =>
      ⟨isLiteral_of_keepsGlob hwild hquoters hline, keepsGlob_of_isLiteral hwild⟩⟩

/-- A negated filter for status codes keeps its meaning; one for a group of names does not. -/
theorem keepsGlob_status_code :
    (Filter.mk "status" "5?*" true true).KeepsGlob false .empty ∧
      ¬ (Filter.mk "service" "(api|web)-*" false true).KeepsGlob false .empty := by
  have hquoters : IsUnquotedGlob "(api|web)-*".toList := by decide
  have hline : false = true ∨ '\n' ∉ "(api|web)-*".toList := by decide
  have hgroup : ¬ IsLiteralGlob "(api|web)-*".toList := by decide
  have hstatus : IsLiteralGlob "5?*".toList := by decide
  refine ⟨(keepsGlob_iff ⟨"status", "5?*", true, true⟩ _ _ rfl).1 hstatus, fun h => hgroup ?_⟩
  exact ((keepsGlob_iff ⟨"service", "(api|web)-*", false, true⟩ _ _ rfl).2.2 hquoters hline).1 h

/-- The filter for the versions that begin with `1.2` accepts `1x2`: its dot is an operator. -/
theorem not_keepsGlob_version :
    Filter.parse? "version:1.2*" = some (Filter.mk "version" "1.2*" false true) ∧
      (∀ dotAll, ((Filter.mk "version" "1.2*" false true).matcher .empty).Accepts dotAll "1x2") ∧
      ¬ GlobMatches "1.2*".toList "1x2".toList ∧
      ¬ ∀ (dotAll : Bool) (f : Filter) (table : Label.Table), f.wildcard = true →
        f.KeepsGlob dotAll table := by
  have hparse : Filter.parse? "version:1.2*" = some (Filter.mk "version" "1.2*" false true) := by
    decide +kernel
  have hnot : ¬ GlobMatches "1.2*".toList "1x2".toList := fun h =>
    absurd (h.mem (c := '.') rfl (by decide)) (by decide)
  have haccepts (dotAll : Bool) :
      ((Filter.mk "version" "1.2*" false true).matcher .empty).Accepts dotAll "1x2" := by
    have hloosened : (Filter.mk "version" "1.2*" false true).loosened.value.toList =
        ['1', '?', '2', '*'] := by decide +kernel
    have hglob : GlobMatches ['1', '?', '2', '*'] ['1', 'x', '2'] :=
      .literal rfl (.single 'x' (.literal rfl (.star [] .nil)))
    refine (accepts_iff_loosened rfl (by decide) (.inr (by decide))).2 ?_
    rw [← hloosened] at hglob
    exact hglob
  refine ⟨hparse, haccepts, hnot, fun h => hnot ?_⟩
  exact (h true _ .empty rfl "1x2" (.inl rfl)).1 (haccepts true)

end Filter

end DashQuery.Query

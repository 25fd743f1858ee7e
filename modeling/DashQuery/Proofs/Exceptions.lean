import DashQuery.Proofs.ByteOrder
import DashQuery.Proofs.RuleTables
import DashQuery.Proofs.Rows
import DashQuery.Proofs.WholeNames

/-!
# Exceptions in front of a rule table

The first rule that accepts a name decides, so an exception for one metric is a rule in front of the
others.  Its pattern is a caret and the name, with a backslash before each character that could be
an operator.  It is read as the literal characters of the name between two anchors, and so the rule
accepts this name and no other.

* `parse?_exceptionPattern`: what is read from the pattern of an exception.
* `search_wholeWord_iff`: only the name itself is found.
* `Regexp.size_wholeWord`: the size of the expression, by which alone an exception can be refused.
* `RuleTable.classify_cons`: what one more rule in front changes.
* `classify_exception`: an exception changes the kind of one metric only.
-/

namespace DashQuery.Pattern

variable {word text : List Char} {c : Char} {cs rest : List Char} {items : List (Part Regexp)}

/-! ## Escaped characters -/

/-- The characters that are escaped in the pattern of an exception. -/
def escaped : List Char :=
  ['\\', '.', '+', '*', '?', '(', ')', '|', '[', ']', '\x7b', '\x7d', '^', '$']

/-- A text with a backslash before each character that could be an operator. -/
def escape (word : List Char) : List Char :=
  word.flatMap fun c => if c ∈ escaped then ['\\', c] else [c]

theorem mem_escaped_of_mem_operators (h : c ∈ operators) : c ∈ escaped := by
  have hall : operators.all (· ∈ escaped) = true := by decide
  exact of_decide_eq_true (List.all_eq_true.1 hall c h)

/-- Behind a backslash an escaped character stands for itself. -/
theorem readOutside?_backslash {f : Flags} (h : c ∈ escaped) :
    readOutside? f '\\' (c :: cs) = some (.leaf (.set (f.literal c)), cs) := by
  simp only [escaped, List.mem_cons, List.not_mem_nil, or_false] at h
  rcases h with
    rfl | rfl | rfl | rfl | rfl | rfl | rfl | rfl | rfl | rfl | rfl | rfl | rfl | rfl <;> rfl

/-- **Reading what has been escaped.**  Every character becomes one literal item. -/
theorem run_ofItems_escape (word rest : List Char) (items : List (Part Regexp)) :
    run (.ofItems false items) (escape word ++ rest) =
      run (.ofItems false (((Regexp.literals word).map (⟨·, 0⟩)).reverse ++ items)) rest := by
  induction word generalizing items with
  | nil => rfl
  | cons c word ih =>
    have hitem : run (.ofItems false items)
        ((if c ∈ escaped then ['\\', c] else [c]) ++ (escape word ++ rest)) =
          run (.ofItems false (⟨.set (.single c), 0⟩ :: items)) (escape word ++ rest) := by
      by_cases hc : c ∈ escaped
      · rw [if_pos hc]
        exact run_ofItems_leaf (readOutside?_backslash hc)
      · rw [if_neg hc]
        exact run_ofItems_leaf
          (readOutside?_of_not_operator fun h => hc (mem_escaped_of_mem_operators h))
    have hescape : escape (c :: word) =
        (if c ∈ escaped then ['\\', c] else [c]) ++ escape word := rfl
    rw [hescape, List.append_assoc, hitem, ih, Regexp.literals_cons, List.map_cons,
      List.reverse_cons, List.append_assoc]
    rfl

/-! ## Whole words -/

/-- The expression of a word between two anchors. -/
def wholeWord (word : List Char) : Regexp :=
  .row (.look .textStart :: (Regexp.literals word ++ [.look .textEnd]))

/-- **What is read from the pattern of an exception.** -/
theorem parse?_escape (word : List Char) :
    Regexp.parse? ('^' :: escape word ++ ['$']) = some (wholeWord word) := by
  rw [← Regexp.parseDotted?_false, Regexp.parseDotted?, List.cons_append,
    run_ofItems_leaf (r := .look .textStart) rfl, run_ofItems_escape,
    run_ofItems_leaf (r := .look .textEnd) rfl, run_empty, Option.bind_some,
    State.finish?_ofItems]
  · simp [wholeWord, Function.comp_def]
  · intro item hitem
    have hdepth : item.depth = 0 := by
      simp only [List.mem_cons, List.mem_append, List.mem_reverse, List.mem_map, List.not_mem_nil,
        or_false] at hitem
      obtain rfl | ⟨r, -, rfl⟩ | rfl := hitem <;> rfl
    rw [hdepth]
    decide

theorem spans_wholeWord_iff {i j : Nat} :
    Spans text (wholeWord word) i j ↔ i = 0 ∧ j = text.length ∧ text = word := by
  have hend (i : Nat) : Spans text (.row [.look .textEnd]) i j ↔ j = text.length ∧ i = j := by
    refine spans_concat_iff.trans ⟨?_, ?_⟩
    · rintro ⟨k, hlook, hempty⟩
      obtain ⟨rfl, hi, hend⟩ := spans_look_iff.1 hlook
      obtain ⟨rfl, -⟩ := spans_empty_iff.1 hempty
      exact ⟨(isNone_after_iff hi).1 hend, rfl⟩
    · rintro ⟨rfl, rfl⟩
      have hle := Nat.le_refl text.length
      exact ⟨_, .look hle ((isNone_after_iff hle).2 rfl), .empty hle⟩
  constructor
  · intro h
    obtain ⟨k, hlook, hrow⟩ := spans_concat_iff.1 h
    obtain ⟨rfl, hi, hstart⟩ := spans_look_iff.1 hlook
    obtain rfl : i = 0 := (isNone_before_iff hi).1 hstart
    obtain ⟨hword, hrow⟩ := Regexp.spans_row_literals_iff.1 hrow
    obtain ⟨hj, hlength⟩ := (hend _).1 hrow
    rw [List.drop_zero] at hword
    exact ⟨rfl, hj, (hword.eq_of_length (by omega)).symm⟩
  · rintro ⟨rfl, rfl, rfl⟩
    refine .concat (.look (Nat.zero_le _) rfl) (Regexp.spans_row_literals_iff.2 ⟨?_, ?_⟩)
    · exact List.prefix_rfl
    · exact (hend _).2 ⟨rfl, Nat.zero_add _⟩

/-- **Only the word itself is found.** -/
theorem search_wholeWord_iff : (wholeWord word).search text = true ↔ text = word := by
  rw [Regexp.search_parse?_iff (parse?_escape word)]
  simp only [spans_wholeWord_iff]
  exact ⟨fun ⟨_, _, _, _, h⟩ => h, fun h => ⟨_, _, rfl, rfl, h⟩⟩

/-! ## Sizes -/

theorem withoutSurrogates_char (c : Char) :
    Text.withoutSurrogates [(c.toNat, c.toNat)] = [(c.toNat, c.toNat)] := by
  have hvalid : c.toNat < 0xD800 ∨ 0xDFFF < c.toNat ∧ c.toNat < 0x110000 := c.valid
  obtain hlow | ⟨hhigh, -⟩ := hvalid
  · have hmin : min c.toNat 0xD7FF = c.toNat := by omega
    have hgap : ¬ max c.toNat 0xE000 ≤ c.toNat := by omega
    simp [Text.withoutSurrogates, hmin, hgap]
  · have hmax : max c.toNat 0xE000 = c.toNat := by omega
    have hgap : ¬ c.toNat ≤ min c.toNat 0xD7FF := by omega
    simp [Text.withoutSurrogates, hmax, hgap]

/-- An expression in front of one that is neither empty nor a word adds its own size. -/
theorem Footprint.concat_of_other {x y : Footprint} (hx : x.form ≠ .empty) (hy : y.form = .other) :
    (x.concat y).form = .other ∧ (x.concat y).forward = x.forward + y.forward ∧
      (x.concat y).backward = x.backward + y.backward := by
  unfold Footprint.concat
  rw [hy]
  cases hform : x.form with
  | empty => exact absurd hform hx
  | _ => exact ⟨rfl, rfl, rfl⟩

namespace Regexp

theorem footprint_literal (c : Char) : (set (.single c)).footprint = .word [c] := by
  have hranges : Text.withoutSurrogates (CharSet.single c).ranges = [(c.toNat, c.toNat)] :=
    withoutSurrogates_char c
  have hchar : Footprint.set [(c.toNat, c.toNat)] = .word [c] := by
    rw [Footprint.set, if_pos rfl, Char.ofNat_toNat]
  rw [footprint, branchFootprints, hranges, hchar]
  rfl

/-- A word in front of an anchor takes up a state for each byte and one for the anchor. -/
theorem footprint_literals_look (a : Assertion) (word : List Char) :
    let x := (row (literals word ++ [look a])).footprint
    let size := stateSize * ((Footprint.wordBytes word).length + 1)
    x.form = .other ∧ x.forward = size ∧ x.backward = size := by
  induction word with
  | nil => exact ⟨rfl, rfl, rfl⟩
  | cons c word ih =>
    obtain ⟨hform, hforward, hbackward⟩ := ih
    have hrow : (row (literals (c :: word) ++ [look a])).footprint =
        (Footprint.word [c]).concat (row (literals word ++ [look a])).footprint := by
      rw [← footprint_literal]
      rfl
    have hbytes : (Footprint.wordBytes (c :: word)).length =
        (Footprint.wordBytes [c]).length + (Footprint.wordBytes word).length := by
      simp [Footprint.wordBytes]
    have hword : (Footprint.word [c]).form ≠ .empty := by simp [Footprint.word]
    obtain ⟨h₁, h₂, h₃⟩ := Footprint.concat_of_other hword hform
    dsimp only
    rw [hrow, h₂, h₃, hforward, hbackward, hbytes]
    refine ⟨h₁, ?_, ?_⟩ <;> simp only [Footprint.word, Nat.mul_add, Nat.mul_one, Nat.add_assoc]

/-- **The size of a word between two anchors.** -/
theorem size_wholeWord (word : List Char) :
    (wholeWord word).size = stateSize * ((Footprint.wordBytes word).length + 6) := by
  obtain ⟨hform, hforward, hbackward⟩ := footprint_literals_look .textEnd word
  have hwhole : (wholeWord word).footprint =
      Footprint.look.concat (row (literals word ++ [look .textEnd])).footprint := rfl
  have hlook : Footprint.look.form ≠ .empty := by simp [Footprint.look]
  obtain ⟨-, h₁, h₂⟩ := Footprint.concat_of_other hlook hform
  have hsize : (wholeWord word).size =
      2 * stateSize + max ((wholeWord word).footprint.forward + 2 * stateSize)
        (wholeWord word).footprint.backward := rfl
  rw [hsize, hwhole, h₁, h₂, hforward, hbackward]
  simp only [Footprint.look, stateSize]
  omega

end Regexp

theorem length_wordBytes (word : String) :
    (Footprint.wordBytes word.toList).length = word.utf8ByteSize := by
  have hbytes : Footprint.wordBytes word.toList = Text.bytes word :=
    (Text.bytes_eq_flatMap word).symm
  rw [hbytes]
  rfl

end DashQuery.Pattern

namespace DashQuery.Metric

open DashQuery.Pattern

/-! ## One more rule in front -/

namespace RuleTable

variable (rule : Rule) {rules : List Rule} {table : RuleTable}

/-- A refused rule in front is the error of the list. -/
theorem compile_cons_of_isRefused (h : IsRefused rule.pattern) :
    compile (rule :: rules) = .error ⟨rule.pattern⟩ :=
  compile_eq_error_iff.2
    (compileRules_eq_error_iff.2 ⟨[], rule, rules, rfl, List.forall_mem_nil _, h, rfl⟩)

/-- **What one more rule in front changes**: the kinds of the names that it accepts. -/
theorem classify_cons (htable : compile rules = .ok table) (h : ¬ IsRefused rule.pattern) :
    ∃ table', compile (rule :: rules) = .ok table' ∧
      ∀ name, table'.classify name =
        if rule.accepts name then rule.kind else table.classify name := by
  cases htable' : compile (rule :: rules) with
  | error e =>
    obtain ⟨r, hr, hrefused⟩ := exists_compile_eq_error_iff.1 ⟨e, htable'⟩
    obtain rfl | hr := List.mem_cons.1 hr
    · exact absurd hrefused h
    · rw [← compile_rules htable] at hr
      exact absurd hrefused (table.not_isRefused r hr)
  | ok table' =>
    refine ⟨table', rfl, fun name => ?_⟩
    rw [classify_eq, classify_eq, compile_rules htable, compile_rules htable', List.find?_cons]
    cases rule.accepts name <;> rfl

end RuleTable

/-! ## Exceptions -/

/-- The pattern of an exception for one metric: a caret and the escaped name. -/
def exceptionPattern (word : String) : String := String.ofList ('^' :: escape word.toList)

variable {word : String}

theorem parse?_exceptionPattern (word : String) :
    Regexp.parse? ((exceptionPattern word).toList ++ ['$']) = some (wholeWord word.toList) := by
  rw [exceptionPattern, String.toList_ofList]
  exact parse?_escape word.toList

/-- An exception is refused for its size only. -/
theorem isRefused_exceptionPattern_iff :
    IsRefused (exceptionPattern word) ↔ maxSize < stateSize * (word.utf8ByteSize + 6) := by
  have hhead : (exceptionPattern word).toList.head? = some '^' := by
    rw [exceptionPattern, String.toList_ofList, List.head?_cons]
  have hfits : (wholeWord word.toList).fits = false ↔
      maxSize < stateSize * (word.utf8ByteSize + 6) := by
    rw [Regexp.fits, Regexp.size_wholeWord, length_wordBytes, decide_eq_false_iff_not, Nat.not_le]
  rw [← hfits, IsRefused]
  simp [hhead, parse?_exceptionPattern]

/-- An exception that is not refused accepts exactly its own name. -/
theorem Rule.accepts_exception {kind : Kind} (h : ¬ IsRefused (exceptionPattern word))
    (name : String) : (Rule.mk (exceptionPattern word) kind).accepts name = true ↔ name = word := by
  rw [← Matcher.ofPattern?_eq_none_iff, ← ne_eq, Option.ne_none_iff_exists'] at h
  obtain ⟨m, hm⟩ := h
  have hcaret : (exceptionPattern word).toList.head? = some '^' := by
    rw [exceptionPattern, String.toList_ofList, List.head?_cons]
  obtain ⟨t, ht, rfl⟩ := Matcher.exists_regexp_of_caret hcaret hm
  obtain rfl : wholeWord word.toList = t :=
    Option.some.inj ((parse?_exceptionPattern word).symm.trans ht)
  rw [Rule.accepts, hm, Option.any_some, Matcher.accepts, search_wholeWord_iff, String.toList_inj]

/-- **An exception changes the kind of one metric only.**  Its pattern is well formed, and the name
itself is all that it finds.  In front of a rule list that compiles it is refused only if the name
is so long that the compiled expression is too large.  Otherwise the name gets the kind of the
exception and every other name the kind that it has without it. -/
theorem classify_exception {rules : List Rule} {table : RuleTable}
    (htable : RuleTable.compile rules = .ok table) (word : String) (kind : Kind) :
    (∃ r, Regexp.parse? ((exceptionPattern word).toList ++ ['$']) = some r ∧
        ∀ name : String, r.search name.toList = true ↔ name = word) ∧
      (stateSize * (word.utf8ByteSize + 6) ≤ maxSize →
        ∃ table', RuleTable.compile (⟨exceptionPattern word, kind⟩ :: rules) = .ok table' ∧
          table'.classify word = kind ∧
          ∀ name, name ≠ word → table'.classify name = table.classify name) ∧
      (maxSize < stateSize * (word.utf8ByteSize + 6) →
        RuleTable.compile (⟨exceptionPattern word, kind⟩ :: rules) =
          .error ⟨exceptionPattern word⟩) := by
  refine ⟨⟨_, parse?_exceptionPattern word, fun name => ?_⟩, fun hsize => ?_, fun hsize => ?_⟩
  · rw [search_wholeWord_iff, String.toList_inj]
  · have hkept : ¬ IsRefused (exceptionPattern word) := fun h =>
      Nat.not_lt.2 hsize (isRefused_exceptionPattern_iff.1 h)
    obtain ⟨table', htable', hclassify⟩ :=
      RuleTable.classify_cons ⟨exceptionPattern word, kind⟩ htable hkept
    refine ⟨table', htable', ?_, fun name hname => ?_⟩
    · rw [hclassify, if_pos ((Rule.accepts_exception hkept word).2 rfl)]
    · rw [hclassify, if_neg fun h => hname ((Rule.accepts_exception hkept name).1 h)]
  · exact RuleTable.compile_cons_of_isRefused _ (isRefused_exceptionPattern_iff.2 hsize)

/-- A backslash at the end of the name is escaped too, so it does not take the end anchor. -/
theorem classify_exception_backslash :
    ∃ table, RuleTable.compile [⟨"size|", .histogram⟩, ⟨"*", .sum⟩] = .ok table ∧
      exceptionPattern "cache.size\\" = "^cache\\.size\\\\" ∧
      ∃ table', RuleTable.compile
          [⟨"^cache\\.size\\\\", .gauge⟩, ⟨"size|", .histogram⟩, ⟨"*", .sum⟩] = .ok table' ∧
        table'.classify "cache.size\\" = .gauge ∧
        ∀ name, name ≠ "cache.size\\" → table'.classify name = table.classify name := by
  have hpattern : exceptionPattern "cache.size\\" = "^cache\\.size\\\\" := by decide +kernel
  have hsize : stateSize * ("cache.size\\".utf8ByteSize + 6) ≤ maxSize := by decide +kernel
  have hok : (RuleTable.compile [⟨"size|", .histogram⟩, ⟨"*", .sum⟩]).toBool = true := by
    decide +kernel
  cases htable : RuleTable.compile [⟨"size|", .histogram⟩, ⟨"*", .sum⟩] with
  | error e =>
    rw [htable] at hok
    cases hok
  | ok table =>
    have hexception := (classify_exception htable "cache.size\\" .gauge).2.1 hsize
    rw [hpattern] at hexception
    exact ⟨table, rfl, hpattern, hexception⟩

end DashQuery.Metric

import DashQuery.Proofs.Lexing

/-!
# Filters and their tokens

A token is never looked at as a whole: it is trimmed, one sign of a negation is dropped, a `$` gives
it up, and the first colon cuts the rest in two.  Still every filter has exactly one token, up to
the blanks around it, and a token that is read is the text of its filter.

* `Filter.Printable`: the filters that have a token.
* `Filter.ofToken?_written`: a filter is read back from its token.
* `Filter.ofToken?_eq_some_iff_padded`: a token is read as a filter exactly if it is the text of
  that filter with blanks around it.
* `Filter.ofToken?_eq_none_iff`: the tokens that are no filters.
* `Filter.parse?_exact`: all of this, and which tokens the filters of a query come from.
-/

namespace DashQuery.Query

/-- The token of a filter. -/
def Filter.written (f : Filter) : List Char :=
  (if f.negated then ['!'] else []) ++ (f.key.toList ++ ':' :: f.value.toList)

/-- A filter that has a token: its key ends at the first colon and is no template variable, trimming
the token and dropping one sign take nothing off a filter that is not negated, trimming takes
nothing off the value, and the value is a glob exactly if it looks like one. -/
structure Filter.Printable (f : Filter) : Prop where
  key_colon : ':' ∉ f.key.toList
  key_head : f.key.toList.head? ≠ some '$'
  plain_head : f.negated = false →
    f.key.toList.head? ≠ some '!' ∧ f.key.toList.head?.any Text.isBlank = false
  value_last : f.value.toList.getLast?.any Text.isBlank = false
  wildcard_iff : f.wildcard = true ↔ '*' ∈ f.value.toList ∨ '?' ∈ f.value.toList

instance (f : Filter) : Decidable f.Printable :=
  decidable_of_iff
    (':' ∉ f.key.toList ∧ f.key.toList.head? ≠ some '$' ∧
      (f.negated = false →
        f.key.toList.head? ≠ some '!' ∧ f.key.toList.head?.any Text.isBlank = false) ∧
      f.value.toList.getLast?.any Text.isBlank = false ∧
      (f.wildcard = true ↔ '*' ∈ f.value.toList ∨ '?' ∈ f.value.toList))
    ⟨fun ⟨colon, head, plain, last, wildcard⟩ => ⟨colon, head, plain, last, wildcard⟩,
      fun h => ⟨h.key_colon, h.key_head, h.plain_head, h.value_last, h.wildcard_iff⟩⟩

/-- What is left of a token without the blanks around it and, at most once, the sign of a
negation. -/
def IsBody (token body : List Char) : Prop :=
  Text.trim token = '!' :: body ∨ (Text.trim token).head? ≠ some '!' ∧ Text.trim token = body

namespace Filter

variable {f : Filter} {token body : List Char}

/-- A value is a glob exactly if a wildcard occurs in it. -/
theorem any_isWildcardChar_iff {value : List Char} :
    value.any isWildcardChar = true ↔ '*' ∈ value ∨ '?' ∈ value := by
  rw [List.any_eq_true]
  simp [isWildcardChar, and_or_left, exists_or]

/-! ## Reading back -/

theorem written_trimmed (h : f.Printable) : Text.Trimmed f.written := by
  constructor
  · unfold written
    cases hneg : f.negated with
    | true => rfl
    | false =>
      cases hkey : f.key.toList with
      | nil => rfl
      | cons k key =>
        have hplain := (h.plain_head hneg).2
        rw [hkey] at hplain
        exact hplain
  · unfold written
    rw [← List.append_assoc, Text.getLast?_append_cons]
    cases hvalue : f.value.toList with
    | nil => rfl
    | cons v value =>
      rw [List.getLast?_cons_cons, ← hvalue]
      exact h.value_last

/-- The sign in front of a token is found, and no other. -/
theorem splitNegation_written (h : f.Printable) :
    splitNegation f.written = (f.negated, f.key.toList ++ ':' :: f.value.toList) := by
  unfold written
  cases hneg : f.negated with
  | true => exact splitNegation_eq_true_iff.2 rfl
  | false =>
    refine splitNegation_eq_false_iff.2 ⟨?_, rfl⟩
    have hplain := (h.plain_head hneg).1
    cases hkey : f.key.toList with
    | nil => simp
    | cons k key =>
      rw [hkey] at hplain
      exact hplain

/-- **A filter is read back from its token.** -/
theorem ofToken?_written (h : f.Printable) : ofToken? f.written = some f := by
  have hwild : f.wildcard = f.value.toList.any isWildcardChar := by
    rw [Bool.eq_iff_iff, h.wildcard_iff, any_isWildcardChar_iff]
  rw [ofToken?_eq_some_iff, Text.trim_eq_self (written_trimmed h)]
  exact ⟨splitNegation_written h, h.key_colon, h.key_head, hwild⟩

/-! ## What is read -/

/-- **A token that is read is the text of its filter**, less the blanks around it. -/
theorem written_of_ofToken? (h : ofToken? token = some f) : f.written = Text.trim token := by
  obtain ⟨hbody, -, -, -⟩ := ofToken?_eq_some_iff.1 h
  unfold written
  cases hneg : f.negated with
  | true =>
    rw [hneg, splitNegation_eq_true_iff] at hbody
    exact hbody.symm
  | false =>
    rw [hneg, splitNegation_eq_false_iff] at hbody
    exact hbody.2.symm

/-- Only a printable filter is read from a token: the token is trimmed, and the first sign is taken
for a negation. -/
theorem printable_of_ofToken? (h : ofToken? token = some f) : f.Printable := by
  have hwritten := written_of_ofToken? h
  have htrimmed : Text.Trimmed f.written := hwritten ▸ Text.trimmed_trim token
  obtain ⟨hbody, hcolon, hdollar, hwild⟩ := ofToken?_eq_some_iff.1 h
  refine ⟨hcolon, hdollar, fun hneg => ?_, ?_, ?_⟩
  · have hhead : f.written.head? ≠ some '!' := by
      rw [hneg, splitNegation_eq_false_iff] at hbody
      rw [hwritten]
      exact hbody.1
    have hblank := htrimmed.head
    unfold written at hhead hblank
    rw [hneg] at hhead hblank
    cases hkey : f.key.toList with
    | nil => exact ⟨by simp, rfl⟩
    | cons k key =>
      rw [hkey] at hhead hblank
      exact ⟨hhead, hblank⟩
  · have hlast := htrimmed.last
    unfold written at hlast
    rw [← List.append_assoc, Text.getLast?_append_cons] at hlast
    cases hvalue : f.value.toList with
    | nil => rfl
    | cons v value =>
      rw [hvalue, List.getLast?_cons_cons] at hlast
      exact hlast
  · rw [hwild, any_isWildcardChar_iff]

/-- **The tokens of a filter.**  They are its own text with any blanks around it. -/
theorem ofToken?_eq_some_iff_padded :
    ofToken? token = some f ↔ f.Printable ∧ Text.Padded f.written token := by
  constructor
  · intro h
    refine ⟨printable_of_ofToken? h, ?_⟩
    rw [written_of_ofToken? h]
    exact Text.padded_trim token
  · rintro ⟨hprintable, hpadded⟩
    have htrim : Text.trim token = Text.trim f.written := hpadded.trim_eq
    have hread : ofToken? token = ofToken? f.written := by
      unfold ofToken?
      rw [htrim]
    rw [hread, ofToken?_written hprintable]

/-! ## What is not read -/

theorem isBody_iff :
    IsBody token body ↔ ∃ negated, splitNegation (Text.trim token) = (negated, body) := by
  constructor
  · rintro (h | h)
    · exact ⟨true, splitNegation_eq_true_iff.2 h⟩
    · exact ⟨false, splitNegation_eq_false_iff.2 h⟩
  · rintro ⟨negated, h⟩
    cases negated with
    | true => exact Or.inl (splitNegation_eq_true_iff.1 h)
    | false => exact Or.inr (splitNegation_eq_false_iff.1 h)

/-- **The tokens that are no filters**: template variables and tokens without a colon. -/
theorem ofToken?_eq_none_iff :
    ofToken? token = none ↔ ∃ body, IsBody token body ∧ (body.head? = some '$' ∨ ':' ∉ body) := by
  simp only [isBody_iff]
  unfold ofToken?
  obtain ⟨negated, rest⟩ := splitNegation (Text.trim token)
  dsimp only
  constructor
  · intro h
    refine ⟨rest, ⟨negated, rfl⟩, ?_⟩
    split at h
    · rename_i hdollar
      exact Or.inl hdollar
    · rw [Option.map_eq_none_iff, Text.cut?_eq_none_iff] at h
      exact Or.inr h
  · rintro ⟨body, ⟨negated', heq⟩, hbody⟩
    cases heq
    split
    · rfl
    · rename_i hdollar
      rw [Option.map_eq_none_iff, Text.cut?_eq_none_iff]
      exact hbody.resolve_left hdollar

/-! ## Whole selectors -/

/-- The filters of a query text are read from the pieces between the commas of its first block. -/
theorem selectorFilters_of_isSelectorBlock {text : String} {front contents : List Char}
    (h : IsSelectorBlock text.toList front contents) :
    selectorFilters text = (Text.pieces ',' (String.ofList contents)).filterMap parse? := by
  have hpiece : parse? ∘ String.ofList = ofToken? := by
    funext piece
    rw [Function.comp_apply, parse?, String.toList_ofList]
  rw [selectorFilters, selector?_eq_some_iff.2 ⟨front, h⟩, Text.pieces, List.filterMap_map, hpiece,
    String.toList_ofList]
  rfl

/-- A query text without a block has no filters. -/
theorem selectorFilters_of_forall_not {text : String}
    (h : ∀ front contents, ¬ IsSelectorBlock text.toList front contents) :
    selectorFilters text = [] := by
  rw [selectorFilters, selector?_eq_none_iff.2 h]

/-- **Reading filters loses nothing and makes nothing up.**  A token is no filter exactly if what is
left of it, without the blanks around it and one sign, begins with `$` or has no colon.  Any other
token is the text of its filter with blanks around it: sign, key, colon and value, where the key has
no colon, and the value is a glob exactly if it has a wildcard.  Every printable filter is read back
from its text.  The filters of a query are those of the pieces between the commas of its first
block, in their order, and there are none without a block. -/
theorem parse?_exact :
    (∀ token : String, parse? token = none ↔
      ∃ body, IsBody token.toList body ∧ (body.head? = some '$' ∨ ':' ∉ body)) ∧
    (∀ (token : String) (f : Filter), parse? token = some f →
      ':' ∉ f.key.toList ∧
        (f.wildcard = true ↔ '*' ∈ f.value.toList ∨ '?' ∈ f.value.toList) ∧
        (if f.negated then ['!'] else []) ++ f.key.toList ++ ':' :: f.value.toList =
          Text.trim token.toList) ∧
    (∀ f : Filter, f.Printable → parse? (String.ofList f.written) = some f) ∧
    ∀ text : String,
      (∀ front contents, IsSelectorBlock text.toList front contents →
        selectorFilters text = (Text.pieces ',' (String.ofList contents)).filterMap parse?) ∧
      ((∀ front contents, ¬ IsSelectorBlock text.toList front contents) →
        selectorFilters text = []) := by
  refine ⟨fun token => ofToken?_eq_none_iff, fun token f h => ?_, fun f hf => ?_, fun text => ?_⟩
  · obtain ⟨hprintable, -⟩ := ofToken?_eq_some_iff_padded.1 h
    refine ⟨hprintable.key_colon, hprintable.wildcard_iff, ?_⟩
    rw [List.append_assoc]
    exact written_of_ofToken? h
  · rw [parse?, String.toList_ofList]
    exact ofToken?_written hf
  · exact ⟨fun front contents => selectorFilters_of_isSelectorBlock, selectorFilters_of_forall_not⟩

/-- A negated key that begins with a sign of its own and ends with a blank, and a value with a colon
and a wildcard. -/
theorem parse?_exact_double_sign :
    (⟨"!k ", "a:b*", true, true⟩ : Filter).Printable ∧
      parse? "!!k :a:b*" = some ⟨"!k ", "a:b*", true, true⟩ := by
  have hprintable : (⟨"!k ", "a:b*", true, true⟩ : Filter).Printable := by decide
  have hwritten : String.ofList (⟨"!k ", "a:b*", true, true⟩ : Filter).written = "!!k :a:b*" := by
    decide
  refine ⟨hprintable, ?_⟩
  rw [← hwritten]
  exact parse?_exact.2.2.1 _ hprintable

end Filter

end DashQuery.Query

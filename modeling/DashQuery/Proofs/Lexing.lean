import DashQuery.Proofs.Scanning
import DashQuery.Query.Basic

/-!
# Where the parts of a query text are found

Every scan of `DashQuery.Query` is described by the place of what it finds, independently of how it
searches.

* `selector?_eq_some_iff`: the selector stands in the block that the first opening brace opens.
* `byClause?_eq_some_iff`: the by clause stands in the first block behind `by ` that is closed and
  not empty.
* `byClause?_append_brace`, `byClause?_append_by_brace`: from one opening brace to the next, a by
  clause is found only if `by ` stands directly in front of the brace.
* `parse_eq_ok`: what is read from a text with the head of a query.
-/

namespace DashQuery.Query

variable {cs front contents rest back : List Char}

/-! ## Blocks -/

/-- The text reads `front`, then `contents` in braces: the brace is closed by the first closing
brace behind it. -/
def IsBlock (cs front contents : List Char) : Prop :=
  '}' ∉ contents ∧ ∃ back, cs = front ++ '{' :: (contents ++ '}' :: back)

/-- The block that the first opening brace of the text opens. -/
def IsSelectorBlock (cs front contents : List Char) : Prop :=
  IsBlock cs front contents ∧ '{' ∉ front

/-- The word that announces a by clause. -/
def byWord : List Char := ['b', 'y', ' ']

/-- A block that can be read as a by clause: `by ` stands directly in front of it, and it is not
empty.  `front` is the text in front of the word. -/
def IsByBlock (cs front contents : List Char) : Prop :=
  IsBlock cs (front ++ byWord) contents ∧ contents ≠ []

/-- The first block that can be read as a by clause. -/
def IsFirstByBlock (cs front contents : List Char) : Prop :=
  IsByBlock cs front contents ∧
    ∀ front' contents', IsByBlock cs front' contents' → front.length ≤ front'.length

theorem block?_append_cons (h : '}' ∉ contents) :
    block? (contents ++ '}' :: back) = some contents := by
  rw [block?, if_pos (by simp), Text.before_append_cons h]

theorem block?_eq_some_iff :
    block? cs = some contents ↔ '}' ∉ contents ∧ ∃ back, cs = contents ++ '}' :: back := by
  constructor
  · intro h
    unfold block? at h
    split at h
    · rename_i hmem
      cases h
      rw [List.contains_iff_mem] at hmem
      obtain ⟨a, b, rfl, ha⟩ := List.eq_append_cons_of_mem hmem
      rw [Text.before_append_cons ha]
      exact ⟨ha, b, rfl⟩
    · cases h
  · rintro ⟨hc, back, rfl⟩
    exact block?_append_cons hc

/-- **The selector is what stands in the first block.** -/
theorem selector?_eq_some_iff :
    selector? cs = some contents ↔ ∃ front, IsSelectorBlock cs front contents := by
  rw [selector?, Option.bind_eq_some_iff]
  constructor
  · rintro ⟨rest, hafter, hblock⟩
    obtain ⟨front, hfront, rfl⟩ := Text.after?_eq_some_iff.1 hafter
    obtain ⟨hc, back, rfl⟩ := block?_eq_some_iff.1 hblock
    exact ⟨front, ⟨hc, back, rfl⟩, hfront⟩
  · rintro ⟨front, ⟨hc, back, rfl⟩, hfront⟩
    exact ⟨_, Text.after?_append_cons hfront, block?_append_cons hc⟩

theorem selector?_eq_none_iff :
    selector? cs = none ↔ ∀ front contents, ¬ IsSelectorBlock cs front contents := by
  rw [Option.eq_none_iff_forall_ne_some]
  constructor
  · intro hnone front contents hblock
    exact hnone contents (selector?_eq_some_iff.2 ⟨front, hblock⟩)
  · intro hnone contents hsel
    obtain ⟨front, hblock⟩ := selector?_eq_some_iff.1 hsel
    exact hnone front contents hblock

theorem selector?_append_block (hfront : '{' ∉ front) (hc : '}' ∉ contents) :
    selector? (front ++ '{' :: (contents ++ '}' :: back)) = some contents :=
  selector?_eq_some_iff.2 ⟨front, ⟨hc, back, rfl⟩, hfront⟩

/-! ## The by clause -/

theorem isByBlock_nil_iff :
    IsByBlock cs [] contents ↔
      (Text.stripPrefix? byOpening cs).bind block? = some contents ∧ contents ≠ [] := by
  rw [IsByBlock, IsBlock, Option.bind_eq_some_iff]
  constructor
  · rintro ⟨⟨hc, back, rfl⟩, hne⟩
    exact ⟨⟨_, Text.stripPrefix?_eq_some_iff.2 rfl, block?_append_cons hc⟩, hne⟩
  · rintro ⟨⟨rest, hstrip, hblock⟩, hne⟩
    obtain ⟨hc, back, rfl⟩ := block?_eq_some_iff.1 hblock
    have hcs := Text.stripPrefix?_eq_some_iff.1 hstrip
    exact ⟨⟨hc, back, hcs⟩, hne⟩

theorem isByBlock_cons_cons_iff {c d : Char} :
    IsByBlock (c :: cs) (d :: front) contents ↔ c = d ∧ IsByBlock cs front contents := by
  simp only [IsByBlock, IsBlock, List.cons_append, List.cons.injEq]
  constructor
  · rintro ⟨⟨hc, back, hcd, hcs⟩, hne⟩
    exact ⟨hcd, ⟨hc, back, hcs⟩, hne⟩
  · rintro ⟨hcd, ⟨hc, back, hcs⟩, hne⟩
    exact ⟨⟨hc, back, hcd, hcs⟩, hne⟩

/-- If no by clause begins with the first character, the search goes on behind it. -/
theorem byClause?_cons {c : Char} (h : ∀ contents, ¬ IsByBlock (c :: cs) [] contents) :
    byClause? (c :: cs) = byClause? cs := by
  rw [byClause?]
  split
  · rename_i d clause hd
    exact absurd (isByBlock_nil_iff.2 ⟨hd, List.cons_ne_nil _ _⟩) (h _)
  · rfl

theorem byClause?_of_isByBlock (h : IsByBlock cs [] contents) : byClause? cs = some contents := by
  obtain ⟨hhere, hne⟩ := isByBlock_nil_iff.1 h
  obtain ⟨d, clause, rfl⟩ := List.exists_cons_of_ne_nil hne
  cases cs with
  | nil => simp [byOpening, Text.stripPrefix?] at hhere
  | cons c cs => rw [byClause?, hhere]

/-- **The by clause is what stands in the first block that can be read as one.**  The search tries
the places from left to right, so the induction is on the text: either a by clause begins here, or
every candidate lies behind the first character. -/
theorem byClause?_eq_some_iff :
    byClause? cs = some contents ↔ ∃ front, IsFirstByBlock cs front contents := by
  induction cs with
  | nil =>
    constructor
    · intro h
      cases h
    · rintro ⟨front, ⟨⟨-, back, h⟩, -⟩, -⟩
      simp at h
  | cons c cs ih =>
    by_cases hhere : ∃ found, IsByBlock (c :: cs) [] found
    · obtain ⟨found, hfound⟩ := hhere
      rw [byClause?_of_isByBlock hfound]
      constructor
      · rintro ⟨⟩
        exact ⟨[], hfound, fun _ _ _ => Nat.zero_le _⟩
      · rintro ⟨front, hblock, hfirst⟩
        have hlen := hfirst [] found hfound
        obtain rfl : front = [] := List.eq_nil_of_length_eq_zero (Nat.le_zero.1 hlen)
        rw [← (isByBlock_nil_iff.1 hfound).1, (isByBlock_nil_iff.1 hblock).1]
    · rw [byClause?_cons (fun found hfound => hhere ⟨found, hfound⟩), ih]
      constructor
      · rintro ⟨front, hblock, hfirst⟩
        refine ⟨c :: front, isByBlock_cons_cons_iff.2 ⟨rfl, hblock⟩, fun front' contents' h' => ?_⟩
        cases front' with
        | nil => exact absurd ⟨contents', h'⟩ hhere
        | cons d front' =>
          exact Nat.succ_le_succ (hfirst front' contents' (isByBlock_cons_cons_iff.1 h').2)
      · rintro ⟨front, hblock, hfirst⟩
        cases front with
        | nil => exact absurd ⟨contents, hblock⟩ hhere
        | cons d front =>
          refine ⟨front, (isByBlock_cons_cons_iff.1 hblock).2, fun front' contents' h' => ?_⟩
          exact Nat.le_of_succ_le_succ
            (hfirst (c :: front') contents' (isByBlock_cons_cons_iff.2 ⟨rfl, h'⟩))

theorem byClause?_eq_none_iff :
    byClause? cs = none ↔ ∀ front contents, ¬ IsByBlock cs front contents := by
  induction cs with
  | nil => simp [byClause?, IsByBlock, IsBlock]
  | cons c cs ih =>
    by_cases hhere : ∃ found, IsByBlock (c :: cs) [] found
    · obtain ⟨found, hfound⟩ := hhere
      rw [byClause?_of_isByBlock hfound]
      exact ⟨fun h => (by cases h), fun h => absurd hfound (h _ _)⟩
    · rw [byClause?_cons (fun found hfound => hhere ⟨found, hfound⟩), ih]
      constructor
      · intro h front contents hblock
        cases front with
        | nil => exact hhere ⟨contents, hblock⟩
        | cons d front => exact h front contents (isByBlock_cons_cons_iff.1 hblock).2
      · intro h front contents hblock
        exact h (c :: front) contents (isByBlock_cons_cons_iff.2 ⟨rfl, hblock⟩)

theorem byClause?_eq_none (h : '{' ∉ cs) : byClause? cs = none := by
  rw [byClause?_eq_none_iff]
  rintro front contents ⟨⟨-, back, rfl⟩, -⟩
  exact h (List.mem_append_right _ List.mem_cons_self)

/-- No by clause is found before a brace without `by ` in front of it. -/
theorem byClause?_append_brace (hfront : '{' ∉ front) (hby : ¬ byWord <:+ front) :
    byClause? (front ++ '{' :: rest) = byClause? rest := by
  induction front with
  | nil =>
    rw [List.nil_append, byClause?_cons]
    rintro contents ⟨⟨-, back, h⟩, -⟩
    simp [byWord] at h
  | cons c front ih =>
    rw [List.cons_append, byClause?_cons, ih]
    · exact fun h => hfront (List.mem_cons_of_mem _ h)
    · exact fun h => hby (h.trans (List.suffix_cons _ _))
    · rintro contents ⟨⟨-, back, h⟩, -⟩
      rw [List.nil_append, ← List.cons_append] at h
      obtain ⟨hword, -⟩ := Text.append_cons_inj hfront (by decide) h
      exact hby (hword ▸ List.suffix_refl _)

/-- A candidate in front of which no brace opens is the first one. -/
theorem isFirstByBlock_of_not_mem (h : IsByBlock cs front contents) (hfront : '{' ∉ front) :
    IsFirstByBlock cs front contents := by
  refine ⟨h, ?_⟩
  obtain ⟨⟨-, back, rfl⟩, -⟩ := h
  rintro front' contents' ⟨⟨-, back', heq⟩, -⟩
  refine Nat.le_of_not_lt fun hlt => ?_
  -- a candidate further to the left would need an opening brace inside `front ++ byWord`
  have hshort : (front' ++ byWord).length < (front ++ byWord).length := by
    simp only [List.length_append]
    omega
  have hmem : '{' ∈ front ++ byWord := by
    have hget := congrArg (·[(front' ++ byWord).length]?) heq
    simp only [List.getElem?_append_left hshort, List.getElem?_append_right (Nat.le_refl _),
      Nat.sub_self, List.getElem?_cons_zero] at hget
    exact List.mem_of_getElem? hget
  rcases List.mem_append.1 hmem with hmem | hmem
  · exact hfront hmem
  · exact absurd hmem (by decide)

/-- A by clause is found at a brace with `by ` in front of it. -/
theorem byClause?_append_by_brace (hfront : '{' ∉ front) (hc : '}' ∉ contents)
    (hne : contents ≠ []) :
    byClause? (front ++ byWord ++ '{' :: (contents ++ '}' :: back)) = some contents :=
  byClause?_eq_some_iff.2 ⟨front, isFirstByBlock_of_not_mem ⟨⟨hc, back, rfl⟩, hne⟩ hfront⟩

theorem byAttributes_eq_nil_iff {text : String} :
    byAttributes text = [] ↔ byClause? text.toList = none := by
  unfold byAttributes
  split
  · rename_i clause hclause
    simp [hclause]
  · rename_i hnone
    simp [hnone]

/-- The labels of a by clause are those of the attributes that are read from it. -/
theorem groupLabels_eq_map_byAttributes {text : String} (labels : Label.Table)
    (hby : (byClause? text.toList).isSome) :
    groupLabels text labels = (byAttributes text).map labels.labelOf := by
  obtain ⟨clause, hclause⟩ := Option.isSome_iff_exists.1 hby
  rw [groupLabels, byAttributes, hclause, List.map_map]
  rfl

/-- Without a by clause the grouping is that of the wildcards in the selector. -/
theorem groupLabels_eq_of_byClause?_eq_none {text : String} (labels : Label.Table)
    (hby : byClause? text.toList = none) (hsel : selector? text.toList = some contents) :
    groupLabels text labels =
      (wildcardLabels contents).map fun label => labels.labelOf (String.ofList label) := by
  rw [groupLabels, hby, wildcardAttributes, hsel]
  exact List.map_map

/-! ## The tokens of a selector -/

theorem splitNegation_eq_true_iff : splitNegation cs = (true, rest) ↔ cs = '!' :: rest := by
  unfold splitNegation
  split
  · simp
  · rename_i hsign
    constructor
    · intro h
      simp at h
    · intro h
      exact absurd h (hsign rest)

theorem splitNegation_eq_false_iff :
    splitNegation cs = (false, rest) ↔ cs.head? ≠ some '!' ∧ cs = rest := by
  unfold splitNegation
  split
  · simp
  · rename_i hsign
    constructor
    · intro h
      refine ⟨fun hhead => ?_, (Prod.mk.inj h).2⟩
      obtain ⟨back, hback⟩ := List.head?_eq_some_iff.1 hhead
      exact hsign back hback
    · rintro ⟨-, rfl⟩
      rfl

/-- **The filter of a token.**  Its key ends at the first colon and does not begin with `$`. -/
theorem Filter.ofToken?_eq_some_iff {token : List Char} {f : Filter} :
    Filter.ofToken? token = some f ↔
      splitNegation (Text.trim token) = (f.negated, f.key.toList ++ ':' :: f.value.toList) ∧
        ':' ∉ f.key.toList ∧ f.key.toList.head? ≠ some '$' ∧
        f.wildcard = f.value.toList.any isWildcardChar := by
  unfold Filter.ofToken?
  obtain ⟨negated, body⟩ := splitNegation (Text.trim token)
  dsimp only
  constructor
  · intro h
    split at h
    · cases h
    · rename_i hdollar
      obtain ⟨⟨key, value⟩, hcut, rfl⟩ := Option.map_eq_some_iff.1 h
      obtain ⟨hkey, rfl⟩ := Text.cut?_eq_some_iff.1 hcut
      simp only [String.toList_ofList, true_and, and_true]
      refine ⟨hkey, fun hhead => hdollar ?_⟩
      rw [List.head?_append, hhead, Option.some_or]
  · rintro ⟨hbody, hkey, hhead, hwild⟩
    obtain ⟨rfl, rfl⟩ := Prod.mk.inj hbody
    have hdollar : (f.key.toList ++ ':' :: f.value.toList).head? ≠ some '$' := by
      cases hk : f.key.toList with
      | nil => simp
      | cons k key =>
        rw [hk] at hhead
        simpa using hhead
    rw [if_neg hdollar, Text.cut?_eq_some_iff.2 ⟨hkey, rfl⟩, Option.map_some, String.ofList_toList,
      String.ofList_toList, ← hwild]

/-! ## The head of a query -/

theorem Aggregation.isRank_of_ofToken? {token : List Char} {rank : String}
    (h : ofToken? token = some (percentile rank)) : isRank rank.toList = true := by
  have htoken : token = 'p' :: rank.toList := by
    rw [← text_of_ofToken? h]
    simp [text]
  subst htoken
  simpa [ofToken?] using h

/-- The name of an aggregation is made of letters and digits. -/
theorem all_isAlphanum_of_ofToken? {token : List Char} {a : Aggregation}
    (h : Aggregation.ofToken? token = some a) : token.all Char.isAlphanum = true := by
  rw [← Aggregation.text_of_ofToken? h]
  cases a with
  | percentile rank =>
    have hrank := Aggregation.isRank_of_ofToken? h
    simp only [Aggregation.isRank, Bool.and_eq_true, List.all_eq_true] at hrank
    have htext : (Aggregation.percentile rank).text.toList = 'p' :: rank.toList := by
      simp [Aggregation.text]
    rw [htext, List.all_cons, Bool.and_eq_true, List.all_eq_true]
    refine ⟨by decide, fun c hc => ?_⟩
    rw [Char.isAlphanum, hrank.2 c hc, Bool.or_true]
  | _ => decide

theorem not_mem_of_ofToken? {mark : Char} {token : List Char} {a : Aggregation}
    (h : Aggregation.ofToken? token = some a) (hmark : mark.isAlphanum = false) :
    mark ∉ token := by
  intro hmem
  rw [List.all_eq_true.1 (all_isAlphanum_of_ofToken? h) mark hmem] at hmark
  cases hmark

theorem isRank_iff {cs : List Char} :
    Aggregation.isRank cs = true ↔ cs ≠ [] ∧ ∀ c ∈ cs, c.isDigit = true := by
  simp [Aggregation.isRank]

/-- **A token that has the form of an aggregation is read as one, and no other token is.** -/
theorem isAggregationToken_eq (token : List Char) :
    isAggregationToken token = (Aggregation.ofToken? token).isSome := by
  by_cases hword : aggregationWords.any (·.toList == token) = true
  · obtain ⟨word, hmem, htoken⟩ := List.any_eq_true.1 hword
    obtain rfl := eq_of_beq htoken
    simp only [aggregationWords, List.mem_cons, List.not_mem_nil, or_false] at hmem
    rcases hmem with rfl | rfl | rfl | rfl | rfl <;> decide
  · have hne : ∀ word ∈ aggregationWords, token ≠ word.toList := by
      rintro word hmem rfl
      exact hword (List.any_eq_true.2 ⟨word, hmem, beq_self_eq_true _⟩)
    simp only [aggregationWords, List.forall_mem_cons, List.not_mem_nil] at hne
    obtain ⟨hcount, havg, hsum, hmax, hmin, -⟩ := hne
    unfold Aggregation.ofToken?
    rw [isAggregationToken, eq_false_of_ne_true hword, Bool.false_or, if_neg hcount, if_neg havg,
      if_neg hsum, if_neg hmax, if_neg hmin]
    split
    · rename_i rank
      cases hrank : Aggregation.isRank rank <;> simp [hrank]
    · rename_i hhead
      cases token with
      | nil => rfl
      | cons c rank =>
        have hp : c ≠ 'p' := by
          rintro rfl
          exact hhead rank rfl
        simp [hp]

/-- The head that is found in a text that begins with one. -/
theorem head?_append {token metric : List Char} {a : Aggregation}
    (ha : Aggregation.ofToken? token = some a) (hne : metric ≠ []) (hm : '{' ∉ metric) :
    head? (token ++ ':' :: (metric ++ '{' :: rest)) = some (token, metric) := by
  have hcut : Text.cut? ':' (token ++ ':' :: (metric ++ '{' :: rest)) =
      some (token, metric ++ '{' :: rest) :=
    Text.cut?_eq_some_iff.2 ⟨not_mem_of_ofToken? ha (by decide), rfl⟩
  simp [head?, hcut, Text.before_append_cons hm, isAggregationToken_eq, ha, hne]

/-- What is read from a text with the head of a query. -/
theorem parse_eq_ok {text : String} {token metric : List Char} {a : Aggregation}
    (labels : Label.Table) (hhead : head? text.toList = some (token, metric))
    (ha : Aggregation.ofToken? token = some a) :
    parse text labels = .ok
      { aggregation := a
        metric := String.ofList (Text.trim metric)
        filters := selectorFilters text
        groupBy := groupLabels text labels
        byClause := byAttributes text
        modifiers := .scan text } := by
  simp [parse, hhead, ha]

/-- A text that is read as a query has the head of one. -/
theorem exists_head?_of_parse {text : String} {labels : Label.Table} {q : Query}
    (h : parse text labels = .ok q) :
    ∃ token metric, head? text.toList = some (token, metric) ∧
      Aggregation.ofToken? token = some q.aggregation ∧
      q = { aggregation := q.aggregation
            metric := String.ofList (Text.trim metric)
            filters := selectorFilters text
            groupBy := groupLabels text labels
            byClause := byAttributes text
            modifiers := .scan text } := by
  unfold parse at h
  split at h
  · cases h
  · rename_i token metric hhead
    split at h
    · cases h
    · rename_i a ha
      cases h
      exact ⟨token, metric, hhead, ha, rfl⟩

/-- All of a query but its head is found by scans of the whole text. -/
theorem scans_of_parse {text : String} {labels : Label.Table} {q : Query}
    (h : parse text labels = .ok q) :
    q.filters = selectorFilters text ∧ q.groupBy = groupLabels text labels ∧
      q.byClause = byAttributes text ∧ q.modifiers = .scan text := by
  obtain ⟨_, _, _, _, hq⟩ := exists_head?_of_parse h
  rw [hq]
  exact ⟨rfl, rfl, rfl, rfl⟩

/-- A query has a by clause exactly if some block can be read as one. -/
theorem byClause_eq_nil_iff {text : String} {labels : Label.Table} {q : Query}
    (h : parse text labels = .ok q) :
    q.byClause = [] ↔ ∀ front contents, ¬ IsByBlock text.toList front contents := by
  obtain ⟨-, -, hclause, -⟩ := scans_of_parse h
  rw [hclause, byAttributes_eq_nil_iff, byClause?_eq_none_iff]

end DashQuery.Query

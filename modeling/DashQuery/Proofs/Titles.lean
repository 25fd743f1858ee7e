import Mathlib.Data.List.SplitBy
import DashQuery.Proofs.Grammar
import DashQuery.Query.Title

/-!
# What a title shows

A title is made of the attributes of the by clause alone: the words of the only one, or the part of
each behind its last dot.  The search for camel-case boundaries goes on behind the two letters of a
boundary.  No boundary is lost by that, because the second letter is in upper case and so is not the
first one of another boundary.

* `Text.mem_upper_iff`: no upper case has a dot, a blank or a line end in it.
* `spaceCamel_cons_cons`: the search, one character at a time.
* `spaceCamel_eq_intercalate`: it puts one space between every two words, and nothing else.
* `isLeaf_attributeLeaf`: the part of an attribute behind its last dot.
* `title_shows_attributes`: what the title of a query shows of its by clause.
-/

namespace DashQuery

namespace Text

variable {c d : Char} {cs : List Char}

/-! ## Upper case -/

/-- A character in front of all letters, such as a dot, a blank or a line end. -/
def PrecedesLetters (c : Char) : Prop := 0 < c.toNat ∧ c.toNat < 65

theorem toNat_ofNat (n : Nat) : (Char.ofNat n).toNat = n ∨ (Char.ofNat n).toNat = 0 := by
  by_cases hvalid : n.isValidChar
  · have hchar : Char.ofNat n = Char.ofNatAux n hvalid := dif_pos hvalid
    rw [hchar]
    exact Or.inl rfl
  · have hchar : Char.ofNat n = '\x00' := dif_neg hvalid
    rw [hchar]
    exact Or.inr rfl

theorem PrecedesLetters.ne_ofNat (hc : PrecedesLetters c) {n : Nat} (hn : 65 ≤ n) :
    c ≠ Char.ofNat n := by
  rintro rfl
  obtain ⟨hpos, hlt⟩ := hc
  have := toNat_ofNat n
  omega

theorem upperRuns_ge : ∀ r ∈ upperRuns, 65 ≤ r.first ∧ 65 ≤ r.image := by
  decide +kernel

theorem upperSequences_ge : ∀ p ∈ upperSequences, 65 ≤ p.1 ∧ ∀ n ∈ p.2, 65 ≤ n := by
  decide +kernel

/-- In front of the letters no character has an upper case. -/
theorem upper_eq_self (hc : PrecedesLetters c) : upper c = [c] := by
  have hruns : upperRuns.findSome? (·.forward? c.toNat) = none := by
    rw [List.findSome?_eq_none_iff]
    intro r hr
    have hfirst := (upperRuns_ge r hr).1
    have hlt := hc.2
    have hbefore : ¬ r.first ≤ c.toNat := by omega
    simp [Run.forward?, Run.offset?, hbefore]
  have hsequences : upperSequences.lookup c.toNat = none := by
    rw [List.lookup_eq_none_iff]
    intro p hp
    have hfirst := (upperSequences_ge p hp).1
    have hlt := hc.2
    simp only [bne_iff_ne, ne_eq]
    omega
  simp [upper, hruns, hsequences]

/-- **The characters in front of the letters have no upper case and are that of no other
character.** -/
theorem mem_upper_iff (hc : PrecedesLetters c) : c ∈ upper d ↔ c = d := by
  constructor
  · intro hmem
    unfold upper at hmem
    split at hmem
    · rename_i n hrun
      obtain ⟨r, hr, hforward⟩ := List.exists_of_findSome?_eq_some hrun
      obtain ⟨k, -, rfl⟩ := Option.map_eq_some_iff.1 hforward
      have himage := (upperRuns_ge r hr).2
      exact absurd (List.mem_singleton.1 hmem) (hc.ne_ofNat (by omega))
    · split at hmem
      · rename_i ns hlookup
        obtain ⟨front, back, htable, -⟩ := List.lookup_eq_some_iff.1 hlookup
        obtain ⟨n, hn, rfl⟩ := List.mem_map.1 hmem
        have himage := upperSequences_ge _ (htable ▸ List.mem_append_right _ List.mem_cons_self)
        exact absurd rfl (hc.ne_ofNat (himage.2 n hn))
      · exact List.mem_singleton.1 hmem
  · rintro rfl
    simp [upper_eq_self hc]

theorem mem_capitalize_iff (hc : PrecedesLetters c) : c ∈ capitalize cs ↔ c ∈ cs := by
  cases cs with
  | nil => rfl
  | cons d cs => rw [capitalize, List.mem_append, mem_upper_iff hc, List.mem_cons]

end Text

namespace Query

open Text (PrecedesLetters)

variable {a b c : Char} {cs front back leaf : List Char} {words : List (List Char)}

/-! ## Words -/

/-- A lower-case letter in front of an upper-case one, both of ASCII. -/
def IsCamelBoundary (a b : Char) : Prop := ('a' ≤ a ∧ a ≤ 'z') ∧ 'A' ≤ b ∧ b ≤ 'Z'

theorem isCamelBoundary_iff : isCamelBoundary a b = true ↔ IsCamelBoundary a b := by
  have hlower : a.isLower = true ↔ 'a' ≤ a ∧ a ≤ 'z' := by
    show (decide ('a' ≤ a) && decide (a ≤ 'z')) = true ↔ _
    rw [Bool.and_eq_true, decide_eq_true_iff, decide_eq_true_iff]
  have hupper : b.isUpper = true ↔ 'A' ≤ b ∧ b ≤ 'Z' := decide_eq_true_iff
  rw [isCamelBoundary, Bool.and_eq_true, hlower, hupper, IsCamelBoundary]

/-- The letter behind a boundary is not in front of another one. -/
theorem IsCamelBoundary.next (h : IsCamelBoundary a b) (c : Char) : isCamelBoundary b c = false := by
  rw [← Bool.not_eq_true, isCamelBoundary_iff]
  rintro ⟨⟨hlower, -⟩, -⟩
  have hcode : 'a'.toNat ≤ 'Z'.toNat := Nat.le_trans hlower h.2.2
  exact absurd hcode (by decide)

/-- A text taken apart at its boundaries.  Together the words are the text; there is no boundary
inside a word, and there is one between every two that follow each other. -/
structure IsCamelSplit (cs : List Char) (words : List (List Char)) : Prop where
  flatten : words.flatten = cs
  whole : ∀ word ∈ words, word.IsChain fun a b => ¬ IsCamelBoundary a b
  apart : words.IsChain fun v w =>
    ∃ a b, v.getLast? = some a ∧ w.head? = some b ∧ IsCamelBoundary a b

/-- Every text can be taken apart. -/
theorem isCamelSplit_splitBy (cs : List Char) :
    IsCamelSplit cs (cs.splitBy fun a b => !isCamelBoundary a b) where
  flatten := List.flatten_splitBy _ cs
  whole := by
    intro word hword
    refine (List.isChain_of_mem_splitBy hword).imp fun a b hab => ?_
    rw [← isCamelBoundary_iff]
    simpa using hab
  apart := by
    refine (List.isChain_getLast_head_splitBy _ cs).imp fun v w hvw => ?_
    obtain ⟨hv, hw, hab⟩ := hvw
    refine ⟨v.getLast hv, w.head hw, List.getLast?_eq_some_getLast hv,
      List.head?_eq_some_head hw, ?_⟩
    rw [← isCamelBoundary_iff]
    simpa using hab

/-- **The search, one character at a time.**  It reads the second letter of a boundary without
looking at what follows, but no boundary begins with that letter. -/
theorem spaceCamel_cons_cons (a b : Char) (cs : List Char) :
    spaceCamel (a :: b :: cs) =
      a :: ((if isCamelBoundary a b then [' '] else []) ++ spaceCamel (b :: cs)) := by
  rw [spaceCamel]
  split
  · rename_i hab
    have hnext : spaceCamel (b :: cs) = b :: spaceCamel cs := by
      cases cs with
      | nil => rfl
      | cons c cs => simp [spaceCamel, (isCamelBoundary_iff.1 hab).next c]
    simp [hnext]
  · rfl

theorem head?_spaceCamel (cs : List Char) : (spaceCamel cs).head? = cs.head? := by
  match cs with
  | [] => rfl
  | [a] => rfl
  | a :: b :: cs => simp [spaceCamel_cons_cons]

/-- A text without boundaries is left as it is. -/
theorem spaceCamel_eq_self (h : cs.IsChain fun a b => ¬ IsCamelBoundary a b) :
    spaceCamel cs = cs := by
  induction cs with
  | nil => rfl
  | cons a cs ih =>
    cases cs with
    | nil => rfl
    | cons b cs =>
      obtain ⟨hab, htail⟩ := List.isChain_cons_cons.1 h
      rw [← isCamelBoundary_iff] at hab
      simp [spaceCamel_cons_cons, hab, ih htail]

/-- At a boundary a text falls apart into two that are searched on their own. -/
theorem spaceCamel_append {v w : List Char} (hv : v.getLast? = some a) (hw : w.head? = some b)
    (hab : IsCamelBoundary a b) : spaceCamel (v ++ w) = spaceCamel v ++ ' ' :: spaceCamel w := by
  induction v with
  | nil => cases hv
  | cons c v ih =>
    cases v with
    | nil =>
      obtain ⟨w, rfl⟩ := List.head?_eq_some_iff.1 hw
      obtain rfl : c = a := by simpa using hv
      simp [spaceCamel_cons_cons, isCamelBoundary_iff.2 hab, spaceCamel]
    | cons d v =>
      rw [List.getLast?_cons_cons] at hv
      have htail := ih hv
      rw [List.cons_append] at htail
      rw [List.cons_append, List.cons_append, spaceCamel_cons_cons, spaceCamel_cons_cons, htail]
      simp

/-- **One space is put between every two words, and nothing else.**  The induction is on the words:
the first one has no boundary inside, and behind it the search begins anew. -/
theorem spaceCamel_eq_intercalate (h : IsCamelSplit cs words) :
    spaceCamel cs = [' '].intercalate words := by
  obtain ⟨rfl, hwhole, hapart⟩ := h
  induction words with
  | nil => rfl
  | cons v words ih =>
    have hv : spaceCamel v = v := spaceCamel_eq_self (hwhole v List.mem_cons_self)
    have hrest := ih (fun word hword => hwhole word (List.mem_cons_of_mem v hword)) hapart.tail
    cases words with
    | nil => simp [hv]
    | cons w words =>
      obtain ⟨⟨a, b, ha, hb, hab⟩, -⟩ := List.isChain_cons_cons.1 hapart
      have hhead : (w :: words).flatten.head? = some b := by
        simp [List.flatten_cons, List.head?_append, hb]
      rw [List.flatten_cons, spaceCamel_append ha hhead hab, hv, hrest,
        List.intercalate_cons_cons]
      simp

/-- No boundary is left. -/
theorem isChain_spaceCamel (cs : List Char) :
    (spaceCamel cs).IsChain fun a b => ¬ IsCamelBoundary a b := by
  induction cs with
  | nil => exact List.isChain_nil
  | cons a cs ih =>
    cases cs with
    | nil => exact List.isChain_singleton a
    | cons b cs =>
      have hhead : (spaceCamel (b :: cs)).head? = some b := head?_spaceCamel _
      rw [spaceCamel_cons_cons]
      split
      · -- a space is a letter of no boundary
        have hbefore : ¬ IsCamelBoundary a ' ' := fun h => absurd h.2.1 (by decide)
        have hbehind (c : Char) : ¬ IsCamelBoundary ' ' c := fun h => absurd h.1.1 (by decide)
        refine List.isChain_cons_cons.2 ⟨hbefore, List.isChain_cons.2 ⟨fun c _ => hbehind c, ih⟩⟩
      · rename_i hab
        rw [isCamelBoundary_iff] at hab
        refine List.isChain_cons.2 ⟨?_, ih⟩
        intro c hc
        rw [List.nil_append, hhead] at hc
        cases hc
        exact hab

/-- **A text that has been taken apart is not taken apart again.** -/
theorem spaceCamel_spaceCamel (cs : List Char) : spaceCamel (spaceCamel cs) = spaceCamel cs :=
  spaceCamel_eq_self (isChain_spaceCamel cs)

/-- Only spaces are put in. -/
theorem filter_spaceCamel (cs : List Char) :
    (spaceCamel cs).filter (· != ' ') = cs.filter (· != ' ') := by
  induction cs with
  | nil => rfl
  | cons a cs ih =>
    cases cs with
    | nil => rfl
    | cons b cs =>
      rw [spaceCamel_cons_cons, List.filter_cons, List.filter_append, ih, List.filter_cons (x := a)]
      split <;> split <;> simp

theorem mem_spaceCamel_iff (hc : c ≠ ' ') : c ∈ spaceCamel cs ↔ c ∈ cs := by
  have hmem (ds : List Char) : c ∈ ds ↔ c ∈ ds.filter (· != ' ') := by simp [hc]
  rw [hmem, filter_spaceCamel, ← hmem]

/-! ## Attributes -/

theorem attributeWords_eq (source : List Char) :
    attributeWords source = spaceCamel (source.map fun c => if c = '.' then ' ' else c) := by
  have hreplace : Text.replaceChar '.' [' '] source =
      source.map fun c => if c = '.' then ' ' else c := by
    induction source with
    | nil => rfl
    | cons c source ih =>
      rw [Text.replaceChar, List.flatMap_cons, List.map_cons]
      rw [Text.replaceChar] at ih
      rw [ih]
      split <;> rfl
  rw [attributeWords, hreplace]

/-- **Without spaces the words of an attribute are the attribute without its dots and spaces.** -/
theorem filter_attributeWords (source : List Char) :
    (attributeWords source).filter (· != ' ') =
      source.filter fun c => c != '.' && c != ' ' := by
  rw [attributeWords_eq, filter_spaceCamel]
  induction source with
  | nil => rfl
  | cons c source ih =>
    by_cases hdot : c = '.'
    · simp [hdot, ih]
    · by_cases hblank : c = ' '
      · simp [hblank, ih]
      · simp [hdot, hblank, ih]

theorem dot_not_mem_attributeWords (source : List Char) : '.' ∉ attributeWords source := by
  rw [attributeWords, mem_spaceCamel_iff (by decide)]
  exact Text.not_mem_replaceChar (by simp)

/-- What stands behind the last dot of a text, or the whole text if it has no dot. -/
structure IsLeaf (cs leaf : List Char) : Prop where
  undotted : '.' ∉ leaf
  place : cs = leaf ∨ ∃ front, cs = front ++ '.' :: leaf

/-- **The part of an attribute behind its last dot.** -/
theorem isLeaf_attributeLeaf (source : List Char) : IsLeaf source (attributeLeaf source) where
  undotted := by
    rw [attributeLeaf, List.mem_reverse]
    exact Text.not_mem_before
  place := by
    -- reversed, the part in front of the first dot
    have hbefore : attributeLeaf source = (Text.before '.' source.reverse).reverse := rfl
    by_cases hdot : '.' ∈ source.reverse
    · obtain ⟨leaf, front, hsource, hleaf⟩ := List.eq_append_cons_of_mem hdot
      rw [List.reverse_eq_iff] at hsource
      refine Or.inr ⟨front.reverse, ?_⟩
      rw [hbefore, hsource, List.reverse_reverse, Text.before_append_cons hleaf]
      simp
    · rw [hbefore, Text.before_eq_self hdot, List.reverse_reverse]
      exact Or.inl rfl

/-! ## Titles -/

/-- The title of an aggregation is made of letters and digits. -/
theorem not_mem_aggregation_title (hc : PrecedesLetters c) (hletter : c.isAlphanum = false)
    {token : List Char} {a : Aggregation} (ha : Aggregation.ofToken? token = some a) :
    c ∉ a.title.toList := by
  have htext : c ∉ a.text.toList := by
    rw [Aggregation.text_of_ofToken? ha]
    exact not_mem_of_ofToken? ha hletter
  have hcapital : c ∉ Text.capitalize a.text.toList := by
    rwa [Text.mem_capitalize_iff hc]
  cases a with
  | count =>
    intro hmem
    have hall : "Total".toList.all Char.isAlphanum = true := by decide
    rw [List.all_eq_true.1 hall c hmem] at hletter
    cases hletter
  | _ => rwa [← String.toList_ofList (l := Text.capitalize _)] at hcapital

theorem Aggregation.head?_title_ne (a : Aggregation) : a.title.toList.head? ≠ some 'B' := by
  cases a with
  | percentile rank =>
    have htext : (Aggregation.percentile rank).text.toList = 'p' :: rank.toList := by
      simp [Aggregation.text]
    have htitle : (Aggregation.percentile rank).title =
        String.ofList (Text.capitalize (Aggregation.percentile rank).text.toList) := rfl
    have hupper : Text.upper 'p' = ['P'] := by decide
    simp [htitle, htext, Text.capitalize, hupper]
  | _ => decide

variable {text : String} {labels : Label.Table} {q : Query}

theorem title_of_singleton {source : String} (h : q.byClause = [source]) :
    q.title = "By " ++ String.ofList (Text.capitalize (attributeWords source.toList)) := by
  simp [title, h]

theorem title_of_length (h : 1 < q.byClause.length) :
    q.title = "By " ++
      Text.join ", " (q.byClause.map fun source => String.ofList (attributeLeaf source.toList)) := by
  match hclause : q.byClause with
  | [] => simp [hclause] at h
  | [_] => simp [hclause] at h
  | _ :: _ :: _ => simp [title, hclause]

/-- **Only a title without a by clause does not begin with `By `.** -/
theorem by_prefix_title_iff (q : Query) : "By ".toList <+: q.title.toList ↔ q.byClause ≠ [] := by
  match hclause : q.byClause with
  | [] =>
    have htitle : q.title = q.aggregation.title := by simp [title, hclause]
    rw [htitle]
    constructor
    · rintro ⟨rest, hrest⟩
      refine absurd ?_ q.aggregation.head?_title_ne
      rw [← hrest]
      rfl
    · intro hne
      exact absurd rfl hne
  | [source] => simp [title_of_singleton hclause]
  | source :: source' :: sources =>
    have hlength : 1 < q.byClause.length := by simp [hclause]
    simp [title_of_length hlength]

/-- **No title has a dot.** -/
theorem dot_not_mem_title (h : parse text labels = .ok q) : '.' ∉ q.title.toList := by
  have hdot : PrecedesLetters '.' := by constructor <;> decide
  match hclause : q.byClause with
  | [] =>
    obtain ⟨_, _, _, ha, _⟩ := exists_head?_of_parse h
    have htitle : q.title = q.aggregation.title := by simp [title, hclause]
    rw [htitle]
    exact not_mem_aggregation_title hdot (by decide) ha
  | [source] =>
    simp [title_of_singleton hclause, Text.mem_capitalize_iff hdot, dot_not_mem_attributeWords]
  | source :: source' :: sources =>
    have hlength : 1 < q.byClause.length := by simp [hclause]
    rw [title_of_length hlength, String.toList_append, List.mem_append,
      Text.mem_join_iff (by decide)]
    rintro (hby | ⟨t, ht, hmem⟩)
    · exact absurd hby (by decide)
    · obtain ⟨s, -, rfl⟩ := List.mem_map.1 ht
      rw [String.toList_ofList] at hmem
      exact (isLeaf_attributeLeaf _).undotted hmem

/-- **What the title of a query shows.**  It has no dot, and it begins with `By ` exactly if there
is a by clause.  Of a single attribute it shows the words, the first character being put into upper
case: every dot is a space, and one more space stands at each camel-case boundary and nowhere else.
So the words are not taken apart any further, and without spaces they are the attribute without its
dots and spaces.  Of several attributes it shows what stands behind the last dot of each, in
order. -/
theorem title_shows_attributes (h : parse text labels = .ok q) :
    '.' ∉ q.title.toList ∧
      ("By ".toList <+: q.title.toList ↔
        ∃ front contents, IsByBlock text.toList front contents) ∧
      (∀ source, q.byClause = [source] → ∃ words,
        IsCamelSplit (source.toList.map fun c => if c = '.' then ' ' else c) words ∧
          q.title = "By " ++ String.ofList (Text.capitalize ([' '].intercalate words)) ∧
          spaceCamel ([' '].intercalate words) = [' '].intercalate words ∧
          ([' '].intercalate words).filter (· != ' ') =
            source.toList.filter fun c => c != '.' && c != ' ') ∧
      (1 < q.byClause.length → ∃ leaves,
        List.Forall₂ (fun source leaf => IsLeaf source.toList (String.toList leaf))
            q.byClause leaves ∧
          q.title = "By " ++ Text.join ", " leaves) := by
  refine ⟨dot_not_mem_title h, ?_, ?_, ?_⟩
  · rw [by_prefix_title_iff, ne_eq, byClause_eq_nil_iff h]
    simp only [not_forall, not_not]
  · intro source hsource
    have hsplit := isCamelSplit_splitBy (source.toList.map fun c => if c = '.' then ' ' else c)
    have hwords := spaceCamel_eq_intercalate hsplit
    refine ⟨_, hsplit, ?_, ?_, ?_⟩
    · rw [← hwords, ← attributeWords_eq]
      exact title_of_singleton hsource
    · rw [← hwords, spaceCamel_spaceCamel]
    · rw [← hwords, ← attributeWords_eq, filter_attributeWords]
  · intro hlength
    refine ⟨_, ?_, title_of_length hlength⟩
    rw [List.forall₂_map_right_iff, List.forall₂_same]
    intro source _
    rw [String.toList_ofList]
    exact isLeaf_attributeLeaf source.toList

/-- A boundary is found on either side of a dot, and none among upper-case letters. -/
theorem title_shows_attributes_two_boundaries :
    ∃ q, parse "p95:m\x7b\x7d by \x7bapiKey.userID\x7d" .empty = .ok q ∧
      q.title = "By Api Key user ID" ∧ '.' ∉ q.title.toList ∧
      ∃ words, IsCamelSplit "apiKey userID".toList words ∧
        q.title = "By " ++ String.ofList (Text.capitalize ([' '].intercalate words)) := by
  have hq : ∃ q, parse "p95:m\x7b\x7d by \x7bapiKey.userID\x7d" .empty = .ok q ∧
      q.byClause = ["apiKey.userID"] ∧ q.title = "By Api Key user ID" :=
    ⟨_, rfl, by decide, by decide⟩
  obtain ⟨q, hq, hclause, htitle⟩ := hq
  obtain ⟨hdot, -, hsingle, -⟩ := title_shows_attributes hq
  obtain ⟨words, hsplit, hwords, -⟩ := hsingle _ hclause
  exact ⟨q, hq, htitle, hdot, words, hsplit, hwords⟩

end Query

end DashQuery

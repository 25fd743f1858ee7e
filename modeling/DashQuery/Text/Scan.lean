/-!
# Scanning a text

The readers of this library look for marks in a text that is a list of characters: the part before
the first occurrence of a mark, the pieces between the marks, a fixed word at the front or anywhere.
Splitting at a mark is `List.splitOn`, joining is `List.intercalate`.

* `before_append_after`: the two parts around the first mark make up the text.
* `stripPrefix?_eq_some_iff`: what a word is stripped from is the word and the rest.
* `hasInfix_iff`: a word occurs exactly when the text is a beginning, the word and an end.
* `takeBytes?_eq_some_iff`: a front of so many bytes is a beginning whose characters take them up.
-/

namespace DashQuery.Text

/-- The part of a text before the first `mark`, the whole text if there is none. -/
def before (mark : Char) (cs : List Char) : List Char := cs.takeWhile (· != mark)

/-- The part of a text after the first `mark`, if there is one. -/
def after? (mark : Char) (cs : List Char) : Option (List Char) :=
  match cs.dropWhile (· != mark) with
  | [] => none
  | _ :: rest => some rest

theorem before_append_after {mark : Char} {cs rest : List Char} (h : after? mark cs = some rest) :
    cs = before mark cs ++ mark :: rest := by
  unfold after? at h
  split at h
  · cases h
  · next d r hd =>
    cases h
    have hm : d = mark := by
      have := List.head?_dropWhile_not (· != mark) cs
      rw [hd] at this
      simpa using this
    have := List.takeWhile_append_dropWhile (p := (· != mark)) (l := cs)
    rw [hd, hm] at this
    exact this.symm

/-- The text cut at its first `mark`, the mark being left out. -/
def cut? (mark : Char) (cs : List Char) : Option (List Char × List Char) :=
  (after? mark cs).map (before mark cs, ·)

/-- The rest of a text that begins with `word`. -/
def stripPrefix? : (word cs : List Char) → Option (List Char)
  | [], cs => some cs
  | _ :: _, [] => none
  | w :: ws, c :: cs => if w = c then stripPrefix? ws cs else none

theorem stripPrefix?_eq_some_iff {word cs rest : List Char} :
    stripPrefix? word cs = some rest ↔ cs = word ++ rest := by
  induction word generalizing cs with
  | nil => simp [stripPrefix?, eq_comm]
  | cons w ws ih =>
    cases cs with
    | nil => simp [stripPrefix?]
    | cons c cs =>
      by_cases h : w = c
      · simp [stripPrefix?, h, ih]
      · simp [stripPrefix?, h, Ne.symm h]

/-- Whether `word` occurs somewhere in a text. -/
def hasInfix (word : List Char) : List Char → Bool
  | [] => word.isEmpty
  | c :: cs => word.isPrefixOf (c :: cs) || hasInfix word cs

theorem hasInfix_iff {word cs : List Char} :
    hasInfix word cs = true ↔ ∃ before after, cs = before ++ word ++ after := by
  induction cs with
  | nil => simp [hasInfix]
  | cons c cs ih =>
    rw [hasInfix, Bool.or_eq_true, ih, List.isPrefixOf_iff_prefix]
    constructor
    · rintro (⟨r, h⟩ | ⟨b, a, h⟩)
      · exact ⟨[], r, by simpa using h.symm⟩
      · exact ⟨c :: b, a, by simp [h]⟩
    · rintro ⟨b, a, h⟩
      cases b with
      | nil => exact .inl ⟨a, by simpa using h.symm⟩
      | cons d b =>
        simp only [List.cons_append, List.cons.injEq] at h
        exact .inr ⟨b, a, h.2⟩

/-- The first line of a text.  A line ends with a line feed, or with the text, and a carriage return
right in front of its end belongs to the end. -/
def firstLine (cs : List Char) : List Char :=
  let line := before '\n' cs
  if line.getLast? = some '\r' then line.dropLast else line

/-- The count of bytes that a text takes up. -/
def byteCount : List Char → Nat
  | [] => 0
  | c :: cs => c.utf8Size + byteCount cs

/-- The front of a text that takes up `count` bytes, unless it would end inside a character. -/
def takeBytes? : (count : Nat) → List Char → Option (List Char)
  | 0, _ => some []
  | _ + 1, [] => none
  | count + 1, c :: cs =>
    if c.utf8Size ≤ count + 1 then (takeBytes? (count + 1 - c.utf8Size) cs).map (c :: ·) else none

theorem takeBytes?_eq_some_iff {count : Nat} {cs front : List Char} :
    takeBytes? count cs = some front ↔ front <+: cs ∧ byteCount front = count := by
  induction cs generalizing count front with
  | nil => cases count <;> cases front <;> simp [takeBytes?, byteCount]
  | cons c cs ih =>
    have hc := c.utf8Size_pos
    cases count with
    | zero =>
      cases front with
      | nil => simp [takeBytes?, byteCount]
      | cons d front =>
        have hd := d.utf8Size_pos
        simp [takeBytes?, byteCount]
        omega
    | succ count =>
      cases front with
      | nil => simp [takeBytes?, byteCount]
      | cons d front =>
        simp only [takeBytes?, List.cons_prefix_cons]
        split
        · simp only [Option.map_eq_some_iff, List.cons.injEq, ih, byteCount]
          constructor
          · rintro ⟨_, ⟨hp, hn⟩, rfl, rfl⟩
            exact ⟨⟨rfl, hp⟩, by omega⟩
          · rintro ⟨⟨rfl, hp⟩, hn⟩
            exact ⟨_, ⟨hp, by omega⟩, rfl, rfl⟩
        · simp only [byteCount, false_iff, reduceCtorEq]
          rintro ⟨⟨rfl, _⟩, hn⟩
          omega

/-- The text with `image` in the place of each `c`. -/
def replaceChar (c : Char) (image : List Char) (cs : List Char) : List Char :=
  cs.flatMap fun d => if d = c then image else [d]

@[simp] theorem replaceChar_nil (c : Char) (image : List Char) : replaceChar c image [] = [] := rfl

/-- The pieces of a text between the marks, a text without a mark being one piece. -/
def pieces (mark : Char) (s : String) : List String :=
  (s.toList.splitOn mark).map String.ofList

/-- The texts, with `separator` between every two. -/
def join (separator : String) (texts : List String) : String :=
  String.ofList (separator.toList.intercalate (texts.map String.toList))

end DashQuery.Text

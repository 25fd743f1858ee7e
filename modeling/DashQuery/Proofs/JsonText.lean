import DashQuery.Json.Parser
import DashQuery.Json.Printer

/-!
# JSON texts are read back

A value is written over several lines and read by a machine over tokens.  What is written of a value
takes the machine from a state that expects a value to the state in which that value is complete,
whatever is open around it and whatever stands behind it.

* `readString?_renderString`: a string is read back from between its quotes, whatever is in it.
* `readFrom_cons`: what one token does to the state.
* `readFrom_renderAt`: what a written value does to it, with the lists and tables in it.
* `parse?_renderAt`: a written value is read back.

Numbers and single characters are left out: a number is written as it is given, whether it is one or
not, and a character is read back as a text.
-/

namespace DashQuery.Json

variable {c d : Char} {cs rest : List Char} {s : State}

/-! ## Strings -/

theorem hexValue?_hexDigit : ∀ n < 16, Text.hexValue? (Text.hexDigit n) = some n := by
  decide

/-- A control character is read back from its number. -/
theorem readEscape?_hexPair (h : c.toNat < 0x20) :
    readEscape? ('u' :: '0' :: '0' :: (Text.hexPair c.toNat ++ rest)) = some (c, rest) := by
  have hhigh := hexValue?_hexDigit (c.toNat / 16) (by omega)
  have hlow := hexValue?_hexDigit (c.toNat % 16) (by omega)
  have hzero : Text.hexValue? '0' = some 0 := by decide
  have hnumber : Text.hexNumber? ['0', '0', Text.hexDigit (c.toNat / 16),
      Text.hexDigit (c.toNat % 16)] = some c.toNat := by
    simp only [Text.hexNumber?, List.mapM_cons, List.mapM_nil, hhigh, hlow, hzero]
    simp only [Option.pure_def, Option.bind_eq_bind, Option.bind_some, Option.map_some,
      List.foldl_cons, List.foldl_nil, Option.some.injEq]
    omega
  have hunit : readUnit? ('0' :: '0' :: (Text.hexPair c.toNat ++ rest)) = some (c.toNat, rest) := by
    simp only [Text.hexPair, List.cons_append, List.nil_append, readUnit?, hnumber, Option.map_some]
  show readUnicode? _ = _
  rw [readUnicode?, hunit]
  have hchar : Char.ofNat c.toNat = c := Char.ofNat_toNat c
  simp only [hchar]
  rw [if_neg (by omega), if_neg (by omega)]

theorem readString?_quote : readString? ('"' :: cs) = some ([], cs) := by
  rw [readString?, if_pos rfl]

theorem readString?_escape (h : readEscape? cs = some (d, rest)) :
    readString? ('\\' :: cs) = (readString? rest).map fun r => (d :: r.1, r.2) := by
  rw [readString?, if_neg (by decide), if_pos rfl]
  split
  · rename_i hnone
    rw [h] at hnone
    cases hnone
  · rename_i hsome
    rw [h] at hsome
    cases hsome
    rfl

theorem readString?_plain (hquote : c ≠ '"') (hslash : c ≠ '\\') (hcontrol : ¬ c.toNat < 0x20) :
    readString? (c :: cs) = (readString? cs).map fun r => (c :: r.1, r.2) := by
  rw [readString?, if_neg hquote, if_neg hslash, if_neg hcontrol]

/-- A character is read back from its escape. -/
theorem readString?_escapeChar :
    readString? (escapeChar c ++ cs) = (readString? cs).map fun r => (c :: r.1, r.2) := by
  unfold escapeChar
  split
  · next h => subst h; exact readString?_escape rfl
  split
  · next h => subst h; exact readString?_escape rfl
  split
  · next h => subst h; exact readString?_escape rfl
  split
  · next h => subst h; exact readString?_escape rfl
  split
  · next h => subst h; exact readString?_escape rfl
  split
  · next h => subst h; exact readString?_escape rfl
  split
  · next h => subst h; exact readString?_escape rfl
  split
  · next h =>
    rw [List.append_assoc]
    exact readString?_escape (readEscape?_hexPair h)
  · next hquote hslash _ _ _ _ _ hcontrol => exact readString?_plain hquote hslash hcontrol

/-- **A string is read back from between its quotes.** -/
theorem readString?_renderString (text : List Char) :
    readString? (text.flatMap escapeChar ++ '"' :: rest) = some (text, rest) := by
  induction text with
  | nil => exact readString?_quote
  | cons c text ih =>
    rw [List.flatMap_cons, List.append_assoc, readString?_escapeChar, ih]
    rfl

/-! ## Reading on from a state -/

/-- The state after a text is read from a state on. -/
def readFrom (s : State) (cs : List Char) : Option State := (tokens? cs).bind (run s)

theorem parse?_eq_readFrom : parse? cs = (readFrom .start cs).bind State.finish? := by
  rw [parse?, readFrom]
  cases tokens? cs <;> rfl

theorem readFrom_nil : readFrom s [] = some s := by
  rw [readFrom, tokens?_nil]
  rfl

theorem readFrom_space (h : isSpace c = true) : readFrom s (c :: cs) = readFrom s cs := by
  rw [readFrom, readFrom, tokens?_space h]

/-- **What one token does to the state.** -/
theorem readFrom_cons {t : Token} {s' : State} (hc : isSpace c = false)
    (ht : readToken? c cs = some (t, rest)) (hs : s.step? t = some s') :
    readFrom s (c :: cs) = readFrom s' rest := by
  rw [readFrom, readFrom, tokens?_cons hc ht]
  cases tokens? rest with
  | none => rfl
  | some ts =>
    show run s (t :: ts) = run s' ts
    rw [run, List.foldlM_cons, hs]
    rfl

theorem readFrom_newline (depth : Nat) : readFrom s (newline depth ++ cs) = readFrom s cs := by
  have hspaces : ∀ n, readFrom s (List.replicate n ' ' ++ cs) = readFrom s cs := by
    intro n
    induction n with
    | zero => rfl
    | succ n ih => rw [List.replicate_succ, List.cons_append, readFrom_space (by decide), ih]
  rw [newline, List.cons_append, readFrom_space (by decide), hspaces]

theorem readFrom_string {text : String} {s' : State} (hs : s.step? (.text text) = some s') :
    readFrom s (renderString text ++ cs) = readFrom s' cs := by
  have ht : readToken? '"' (text.toList.flatMap escapeChar ++ '"' :: cs) =
      some (.text text, cs) := by
    show (readString? _).map _ = _
    rw [readString?_renderString, Option.map_some, String.ofList_toList]
  rw [renderString, List.cons_append, List.append_assoc, List.singleton_append]
  exact readFrom_cons (by decide) ht hs

/-- The key of a field, with what stands in front of its value. -/
theorem readFrom_key {stack : List Frame} {before : List (String × Value)} {key : String}
    {canClose : Bool} (depth : Nat) :
    readFrom (.key stack before canClose)
        (newline depth ++ (renderString key ++ ([':', ' '] ++ cs))) =
      readFrom (.value (.table before key :: stack) false) cs := by
  rw [readFrom_newline]
  have hkey : (State.key stack before canClose).step? (.text key) =
      some (.colon stack before key) := rfl
  rw [readFrom_string hkey, List.cons_append, List.singleton_append]
  have hcolon : (State.colon stack before key).step? .colon =
      some (.value (.table before key :: stack) false) := rfl
  rw [readFrom_cons (by decide) rfl hcolon, readFrom_space (by decide)]

/-! ## Values -/

mutual

/-- Whether a value is read back: it holds neither numbers nor single characters, and its lists and
tables are nested at most `room` deep. -/
def isReadable (room : Nat) : Value → Bool
  | .number _ => false
  | .char _ => false
  | .list items =>
    match room with
    | 0 => false
    | room + 1 => areReadable room items
  | .table fields =>
    match room with
    | 0 => false
    | room + 1 => haveReadable room fields
  | _ => true

/-- Whether all items of a list are read back. -/
def areReadable (room : Nat) : List Value → Bool
  | [] => true
  | v :: items => isReadable room v && areReadable room items

/-- Whether the values of all fields are read back. -/
def haveReadable (room : Nat) : List (String × Value) → Bool
  | [] => true
  | (_, v) :: fields => isReadable room v && haveReadable room fields

end

variable {stack : List Frame} {room : Nat}

theorem isReadable_list {items : List Value} (h : isReadable room (.list items) = true) :
    ∃ n, room = n + 1 ∧ areReadable n items = true := by
  cases room with
  | zero => rw [isReadable] at h; cases h
  | succ n => exact ⟨n, rfl, by rwa [isReadable] at h⟩

theorem isReadable_table {fields : List (String × Value)}
    (h : isReadable room (.table fields) = true) :
    ∃ n, room = n + 1 ∧ haveReadable n fields = true := by
  cases room with
  | zero => rw [isReadable] at h; cases h
  | succ n => exact ⟨n, rfl, by rwa [isReadable] at h⟩

theorem areReadable_iff {items : List Value} :
    areReadable room items = true ↔ ∀ v ∈ items, isReadable room v = true := by
  induction items with
  | nil => simp [areReadable]
  | cons v items ih => simp [areReadable, ih]

theorem haveReadable_iff {fields : List (String × Value)} :
    haveReadable room fields = true ↔ ∀ e ∈ fields, isReadable room e.2 = true := by
  induction fields with
  | nil => simp [haveReadable]
  | cons e fields ih => simp [haveReadable, ih]

/-- A list may be opened as long as there is room below. -/
theorem step?_openList {canClose : Bool} (h : stack.length + (room + 1) ≤ maxDepth) :
    (State.value stack canClose).step? .openList = some (.value (.list [] :: stack) true) := by
  rw [State.step?, if_pos (by omega)]

theorem step?_openTable {canClose : Bool} (h : stack.length + (room + 1) ≤ maxDepth) :
    (State.value stack canClose).step? .openTable = some (.key stack [] true) := by
  rw [State.step?, if_pos (by omega)]

mutual

/-- **What a written value does to the state.**  The claim is made for every state that expects a
value and every text behind, since a value stands inside others. -/
theorem readFrom_renderAt : ∀ (v : Value) (depth room : Nat) (stack : List Frame) (canClose : Bool)
    (rest : List Char), isReadable room v = true → stack.length + room ≤ maxDepth →
      readFrom (.value stack canClose) (renderAt depth v ++ rest) =
        readFrom (.complete stack v) rest
  | .null, depth, _, stack, canClose, rest, _, _ => by
    rw [renderAt]
    exact readFrom_cons (t := .null) (by decide) rfl rfl
  | .bool true, depth, _, stack, canClose, rest, _, _ => by
    rw [renderAt]
    exact readFrom_cons (t := .bool true) (by decide) rfl rfl
  | .bool false, depth, _, stack, canClose, rest, _, _ => by
    rw [renderAt]
    exact readFrom_cons (t := .bool false) (by decide) rfl rfl
  | .number _, _, _, _, _, _, h, _ => by
    rw [isReadable] at h
    cases h
  | .char _, _, _, _, _, _, h, _ => by
    rw [isReadable] at h
    cases h
  | .text s, depth, _, stack, canClose, rest, _, _ => by
    rw [renderAt]
    exact readFrom_string rfl
  | .list [], depth, _, stack, canClose, rest, h, hroom => by
    obtain ⟨n, rfl, -⟩ := isReadable_list h
    rw [renderAt, List.cons_append, readFrom_cons (by decide) rfl (step?_openList hroom)]
    exact readFrom_cons (t := .closeList) (by decide) rfl rfl
  | .list (v :: items), depth, _, stack, canClose, rest, h, hroom => by
    obtain ⟨n, rfl, hitems⟩ := isReadable_list h
    rw [areReadable, Bool.and_eq_true] at hitems
    have hdeeper : (Frame.list [] :: stack).length + n ≤ maxDepth := by
      rw [List.length_cons]
      omega
    rw [renderAt, List.cons_append, readFrom_cons (by decide) rfl (step?_openList hroom)]
    simp only [List.append_assoc]
    rw [readFrom_newline, readFrom_renderAt v (depth + 1) n _ _ _ hitems.1 hdeeper]
    exact readFrom_renderItems items (depth + 1) depth n stack [] v rest hitems.2 hdeeper
  | .table [], depth, _, stack, canClose, rest, h, hroom => by
    obtain ⟨n, rfl, -⟩ := isReadable_table h
    rw [renderAt, List.cons_append, readFrom_cons (by decide) rfl (step?_openTable hroom)]
    exact readFrom_cons (t := .closeTable) (by decide) rfl rfl
  | .table ((key, v) :: fields), depth, _, stack, canClose, rest, h, hroom => by
    obtain ⟨n, rfl, hfields⟩ := isReadable_table h
    rw [haveReadable, Bool.and_eq_true] at hfields
    have hdeeper : (Frame.table [] key :: stack).length + n ≤ maxDepth := by
      rw [List.length_cons]
      omega
    rw [renderAt, List.cons_append, readFrom_cons (by decide) rfl (step?_openTable hroom)]
    simp only [List.append_assoc]
    rw [readFrom_key, readFrom_renderAt v (depth + 1) n _ _ _ hfields.1 hdeeper]
    exact readFrom_renderFields fields (depth + 1) depth n stack [] key v rest hfields.2 hdeeper

/-- The items behind the first one, up to the end of the list. -/
theorem readFrom_renderItems : ∀ (items : List Value) (depth outer room : Nat) (stack : List Frame)
    (before : List Value) (v : Value) (rest : List Char), areReadable room items = true →
      (Frame.list before :: stack).length + room ≤ maxDepth →
      readFrom (.complete (.list before :: stack) v)
          (renderItems depth items ++ (newline outer ++ ([']'] ++ rest))) =
        readFrom (.complete stack (.list (before.reverse ++ v :: items))) rest
  | [], depth, outer, _, stack, before, v, rest, _, _ => by
    have hclose : (State.complete (.list before :: stack) v).step? .closeList =
        some (.complete stack (.list (v :: before).reverse)) := rfl
    rw [renderItems, List.nil_append, readFrom_newline, List.singleton_append,
      readFrom_cons (by decide) rfl hclose, List.reverse_cons]
  | w :: items, depth, outer, room, stack, before, v, rest, h, hroom => by
    rw [areReadable, Bool.and_eq_true] at h
    have hcomma : (State.complete (.list before :: stack) v).step? .comma =
        some (.value (.list (v :: before) :: stack) false) := rfl
    have hnext : (Frame.list (v :: before) :: stack).length + room ≤ maxDepth := hroom
    rw [renderItems, List.cons_append, readFrom_cons (by decide) rfl hcomma]
    simp only [List.append_assoc]
    rw [readFrom_newline, readFrom_renderAt w depth room _ _ _ h.1 hnext,
      readFrom_renderItems items depth outer room stack (v :: before) w rest h.2 hnext,
      List.reverse_cons, List.append_assoc, List.singleton_append]

/-- The fields behind the first one, up to the end of the table. -/
theorem readFrom_renderFields : ∀ (fields : List (String × Value)) (depth outer room : Nat)
    (stack : List Frame) (before : List (String × Value)) (key : String) (v : Value)
    (rest : List Char), haveReadable room fields = true →
      (Frame.table before key :: stack).length + room ≤ maxDepth →
      readFrom (.complete (.table before key :: stack) v)
          (renderFields depth fields ++ (newline outer ++ (['}'] ++ rest))) =
        readFrom (.complete stack (.table (before.reverse ++ (key, v) :: fields))) rest
  | [], depth, outer, _, stack, before, key, v, rest, _, _ => by
    have hclose : (State.complete (.table before key :: stack) v).step? .closeTable =
        some (.complete stack (.table ((key, v) :: before).reverse)) := rfl
    rw [renderFields, List.nil_append, readFrom_newline, List.singleton_append,
      readFrom_cons (by decide) rfl hclose, List.reverse_cons]
  | (other, w) :: fields, depth, outer, room, stack, before, key, v, rest, h, hroom => by
    rw [haveReadable, Bool.and_eq_true] at h
    have hcomma : (State.complete (.table before key :: stack) v).step? .comma =
        some (.key stack ((key, v) :: before) false) := rfl
    have hnext : (Frame.table ((key, v) :: before) other :: stack).length + room ≤ maxDepth := hroom
    rw [renderFields, List.cons_append, readFrom_cons (by decide) rfl hcomma]
    simp only [List.append_assoc]
    rw [readFrom_key, readFrom_renderAt w depth room _ _ _ h.1 hnext,
      readFrom_renderFields fields depth outer room stack ((key, v) :: before) other w rest h.2
        hnext,
      List.reverse_cons, List.append_assoc, List.singleton_append]

end

/-- **A written value is read back**, whatever blanks stand behind it. -/
theorem parse?_renderAt {v : Value} (h : isReadable maxDepth v = true) (depth : Nat)
    (hrest : ∀ c ∈ rest, isSpace c = true) : parse? (renderAt depth v ++ rest) = some v := by
  have hblank : ∀ s, readFrom s rest = some s := by
    intro s
    induction rest with
    | nil => exact readFrom_nil
    | cons c rest ih =>
      rw [readFrom_space (hrest c List.mem_cons_self)]
      exact ih fun d hd => hrest d (List.mem_cons_of_mem _ hd)
  have hdepth : ([] : List Frame).length + maxDepth ≤ maxDepth := by simp
  rw [parse?_eq_readFrom, State.start, readFrom_renderAt v depth maxDepth [] false rest h hdepth,
    hblank]
  rfl

end DashQuery.Json

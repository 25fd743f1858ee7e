/-!
# The order of bytes

Texts are compared by their characters, from left to right and by code point.  In UTF-8 a character
with a greater code point has no smaller first byte, and the digits of the code point follow from
the highest to the lowest, so comparing the bytes gives the same order.

* `utf8EncodeChar_append_lt`: the bytes of the smaller character decide, whatever stands behind.
* `bytes_lt_bytes`: the order of texts is that of their bytes.
-/

namespace DashQuery.Text

variable {m n v w : Nat} {s t : List UInt8} {c d : Char} {cs ds : List Char}

/-- The UTF-8 bytes of a text. -/
def bytes (text : String) : List UInt8 := text.toUTF8.data.toList

theorem bytes_eq_flatMap (text : String) :
    bytes text = text.toList.flatMap String.utf8EncodeChar := by
  have hencode : text.toByteArray = (text.toList.flatMap String.utf8EncodeChar).toByteArray := by
    rw [← List.utf8Encode, ← String.toByteArray_ofList, String.ofList_toList]
  rw [bytes, String.toUTF8_eq_toByteArray, hencode, List.toList_data_toByteArray]

/-! ## One character -/

/-- Bytes are compared as the numbers that they are made from. -/
theorem ofNat_cons_lt (hm : m < 256) (hn : n < 256) (hle : m ≤ n) (h : m = n → s < t) :
    UInt8.ofNat m :: s < UInt8.ofNat n :: t := by
  rw [List.cons_lt_cons_iff, UInt8.lt_iff_toNat_lt, UInt8.toNat_ofNat_of_lt' hm,
    UInt8.toNat_ofNat_of_lt' hn]
  rcases Nat.lt_or_eq_of_le hle with hlt | rfl
  · exact Or.inl hlt
  · exact Or.inr ⟨rfl, h rfl⟩

theorem ofNat_cons_lt_of_lt (hn : n < 256) (hlt : m < n) :
    UInt8.ofNat m :: s < UInt8.ofNat n :: t :=
  ofNat_cons_lt (Nat.lt_trans hlt hn) hn (Nat.le_of_lt hlt) fun heq => absurd heq (Nat.ne_of_lt hlt)

/-- The last byte of two numbers that are equal in front of it. -/
theorem lastByte_lt (h : v < w) (heq : v / 64 = w / 64) :
    UInt8.ofNat (v % 64 + 128) :: s < UInt8.ofNat (w % 64 + 128) :: t :=
  ofNat_cons_lt_of_lt (by omega) (by omega)

/-- The last two bytes of two numbers that are equal in front of them. -/
theorem lastTwoBytes_lt (h : v < w) (heq : v / 4096 = w / 4096) :
    UInt8.ofNat (v / 64 % 64 + 128) :: UInt8.ofNat (v % 64 + 128) :: s <
      UInt8.ofNat (w / 64 % 64 + 128) :: UInt8.ofNat (w % 64 + 128) :: t :=
  ofNat_cons_lt (by omega) (by omega) (by omega) fun hdigit => lastByte_lt h (by omega)

/-- The last three bytes of two numbers that are equal in front of them. -/
theorem lastThreeBytes_lt (h : v < w) (heq : v / 262144 = w / 262144) :
    UInt8.ofNat (v / 4096 % 64 + 128) :: UInt8.ofNat (v / 64 % 64 + 128) ::
        UInt8.ofNat (v % 64 + 128) :: s <
      UInt8.ofNat (w / 4096 % 64 + 128) :: UInt8.ofNat (w / 64 % 64 + 128) ::
        UInt8.ofNat (w % 64 + 128) :: t :=
  ofNat_cons_lt (by omega) (by omega) (by omega) fun hdigit => lastTwoBytes_lt h (by omega)

/-- **The bytes of the smaller character are smaller**, whatever stands behind either.  If the
greater one has more bytes, its first byte is greater; otherwise the digits of the code points are
compared. -/
theorem utf8EncodeChar_append_lt (h : c < d) (s t : List UInt8) :
    String.utf8EncodeChar c ++ s < String.utf8EncodeChar d ++ t := by
  have hlt : c.val.toNat < d.val.toNat := h
  have hmax : d.val.toNat < 1114112 := by
    rcases d.valid with hd | hd <;> omega
  unfold String.utf8EncodeChar
  generalize c.val.toNat = v at hlt ⊢
  generalize d.val.toNat = w at hlt hmax ⊢
  dsimp only
  -- by the count of bytes of the smaller character, which is at most that of the greater one
  by_cases hone : v ≤ 127
  · rw [if_pos hone]
    split
    · exact ofNat_cons_lt_of_lt (by omega) hlt
    · split
      · exact ofNat_cons_lt_of_lt (by omega) (by omega)
      · split <;> exact ofNat_cons_lt_of_lt (by omega) (by omega)
  rw [if_neg hone, if_neg (show ¬ w ≤ 127 by omega)]
  by_cases htwo : v ≤ 2047
  · rw [if_pos htwo]
    split
    · exact ofNat_cons_lt (by omega) (by omega) (by omega) fun hfirst => lastByte_lt hlt (by omega)
    · split <;> exact ofNat_cons_lt_of_lt (by omega) (by omega)
  rw [if_neg htwo, if_neg (show ¬ w ≤ 2047 by omega)]
  by_cases hthree : v ≤ 65535
  · rw [if_pos hthree]
    split
    · exact ofNat_cons_lt (by omega) (by omega) (by omega)
        fun hfirst => lastTwoBytes_lt hlt (by omega)
    · exact ofNat_cons_lt_of_lt (by omega) (by omega)
  rw [if_neg hthree, if_neg (show ¬ w ≤ 65535 by omega)]
  exact ofNat_cons_lt (by omega) (by omega) (by omega)
    fun hfirst => lastThreeBytes_lt hlt (by omega)

/-! ## Texts -/

theorem flatMap_utf8EncodeChar_lt (h : cs < ds) :
    cs.flatMap String.utf8EncodeChar < ds.flatMap String.utf8EncodeChar := by
  induction cs generalizing ds with
  | nil =>
    cases ds with
    | nil => exact absurd h (List.lt_irrefl _)
    | cons d ds =>
      rw [List.flatMap_cons]
      obtain ⟨b, rest, hd⟩ := List.exists_cons_of_ne_nil (String.utf8EncodeChar_ne_nil (c := d))
      rw [hd]
      exact List.nil_lt_cons _ _
  | cons c cs ih =>
    cases ds with
    | nil => exact absurd h (List.not_lt_nil _)
    | cons d ds =>
      rw [List.flatMap_cons, List.flatMap_cons]
      rcases List.cons_lt_cons_iff.1 h with hcd | ⟨rfl, hrest⟩
      · exact utf8EncodeChar_append_lt hcd _ _
      · exact List.append_left_lt (ih hrest)

/-- **Texts are in the order of their bytes.** -/
theorem bytes_lt_bytes {a b : String} (h : a < b) : bytes a < bytes b := by
  rw [bytes_eq_flatMap, bytes_eq_flatMap]
  exact flatMap_utf8EncodeChar_lt (String.lt_iff.1 h)

end DashQuery.Text

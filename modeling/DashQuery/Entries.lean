/-!
# Entries by key

A finite map from texts to values, kept as a list of entries in strictly increasing order of keys.
The order is that of the code points, which is also the order of the UTF-8 bytes.

* `get?_insert`: inserting changes what is found under the inserted key only.
* `ordered_insert`, `ordered_ofList`: every operation keeps the order.
* `Ordered.ext`: two ordered lists in which the same is found under every key are equal.
* `ofList_of_ordered`: a list in order is already the list of its entries.
-/

namespace DashQuery

/-- Values by key. -/
abbrev Entries (α : Type) := List (String × α)

namespace Entries

variable {α β : Type}

/-- The keys strictly increase. -/
def Ordered (es : Entries α) : Prop := es.Pairwise fun a b => a.1 < b.1

/-- What is found under a key. -/
def get? (key : String) : Entries α → Option α
  | [] => none
  | (k, v) :: es => if key = k then some v else get? key es

/-- The entries with `value` under `key`, whatever was there before. -/
def insert (key : String) (value : α) : Entries α → Entries α
  | [] => [(key, value)]
  | (k, v) :: es =>
    if key = k then (key, value) :: es
    else if key < k then (key, value) :: (k, v) :: es
    else (k, v) :: insert key value es

/-- The entries of a list of pairs, of which a later one replaces an earlier one. -/
def ofList (pairs : List (String × α)) : Entries α :=
  pairs.foldl (fun es p => insert p.1 p.2 es) []

/-- Of two keys one comes first, unless they are equal. -/
theorem key_lt_trichotomy (a b : String) : a < b ∨ a = b ∨ b < a := by
  by_cases hab : a < b
  · exact .inl hab
  · by_cases hba : b < a
    · exact .inr (.inr hba)
    · exact .inr (.inl (String.le_antisymm (String.not_lt.1 hba) (String.not_lt.1 hab)))

@[simp] theorem get?_nil (key : String) : get? key ([] : Entries α) = none := rfl

@[simp] theorem insert_nil (key : String) (value : α) : insert key value [] = [(key, value)] := rfl

/-- Inserting changes one key and no other. -/
theorem get?_insert (key other : String) (value : α) (es : Entries α) :
    get? other (insert key value es) = if other = key then some value else get? other es := by
  induction es with
  | nil => simp [get?]
  | cons e es ih =>
    obtain ⟨k, v⟩ := e
    by_cases hk : key = k
    · subst hk
      by_cases ho : other = key <;> simp [insert, get?, ho]
    · by_cases hlt : key < k
      · simp [insert, hk, hlt, get?]
      · by_cases ho : other = k
        · have : other ≠ key := fun h => hk (h.symm.trans ho)
          simp [insert, hk, hlt, get?, ho, Ne.symm hk]
        · simp [insert, hk, hlt, get?, ho, ih]

theorem mem_of_mem_insert {key : String} {value : α} {es : Entries α} {e : String × α}
    (h : e ∈ insert key value es) : e = (key, value) ∨ e ∈ es := by
  induction es with
  | nil => exact .inl (by simpa using h)
  | cons d es ih =>
    obtain ⟨k, v⟩ := d
    rw [insert] at h
    split at h
    · rcases List.mem_cons.1 h with h | h
      · exact .inl h
      · exact .inr (List.mem_cons_of_mem _ h)
    · split at h
      · exact List.mem_cons.1 h
      · rcases List.mem_cons.1 h with h | h
        · exact .inr (by simp [h])
        · exact (ih h).imp id (List.mem_cons_of_mem _)

@[simp] theorem ordered_nil : Ordered ([] : Entries α) := List.Pairwise.nil

theorem ordered_insert (key : String) (value : α) {es : Entries α} (h : Ordered es) :
    Ordered (insert key value es) := by
  induction es with
  | nil => exact List.pairwise_singleton _ _
  | cons e es ih =>
    obtain ⟨k, v⟩ := e
    obtain ⟨hhead, htail⟩ := List.pairwise_cons.1 h
    rw [insert]
    split
    · next hk =>
      subst hk
      exact List.pairwise_cons.2 ⟨hhead, htail⟩
    · next hk =>
      split
      · next hlt =>
        refine List.pairwise_cons.2 ⟨fun e he => ?_, h⟩
        rcases List.mem_cons.1 he with rfl | he
        · exact hlt
        · exact String.lt_trans hlt (hhead e he)
      · next hlt =>
        have hgt : k < key := by
          rcases key_lt_trichotomy key k with h | h | h
          · exact absurd h hlt
          · exact absurd h hk
          · exact h
        refine List.pairwise_cons.2 ⟨fun e he => ?_, ih htail⟩
        rcases mem_of_mem_insert he with rfl | he
        · exact hgt
        · exact hhead e he

theorem ordered_ofList (pairs : List (String × α)) : Ordered (ofList pairs) := by
  suffices ∀ es : Entries α, Ordered es →
      Ordered (pairs.foldl (fun es p => insert p.1 p.2 es) es) from this [] ordered_nil
  induction pairs with
  | nil => exact fun _ h => h
  | cons p pairs ih => exact fun es h => ih _ (ordered_insert _ _ h)

theorem get?_eq_none_of_lt {key : String} {es : Entries α} (h : ∀ e ∈ es, key < e.1) :
    get? key es = none := by
  induction es with
  | nil => rfl
  | cons e es ih =>
    obtain ⟨k, v⟩ := e
    have hk : key ≠ k := fun heq => String.lt_irrefl k (heq ▸ h (k, v) List.mem_cons_self)
    simp [get?, hk, ih fun e he => h e (List.mem_cons_of_mem _ he)]

theorem mem_of_get? {key : String} {value : α} {es : Entries α} (h : get? key es = some value) :
    (key, value) ∈ es := by
  induction es with
  | nil => cases h
  | cons e es ih =>
    obtain ⟨k, v⟩ := e
    by_cases hk : key = k
    · subst hk
      simp only [get?, if_true, Option.some.injEq] at h
      simp [h]
    · simp only [get?, if_neg hk] at h
      exact List.mem_cons_of_mem _ (ih h)

/-- An ordered list finds exactly its members. -/
theorem Ordered.get?_eq_some_iff {key : String} {value : α} {es : Entries α} (h : Ordered es) :
    get? key es = some value ↔ (key, value) ∈ es := by
  refine ⟨mem_of_get?, fun hmem => ?_⟩
  induction es with
  | nil => cases hmem
  | cons e es ih =>
    obtain ⟨k, v⟩ := e
    obtain ⟨hhead, htail⟩ := List.pairwise_cons.1 h
    rcases List.mem_cons.1 hmem with heq | hmem
    · cases heq; simp [get?]
    · have hlt : k < key := hhead _ hmem
      have hne : key ≠ k := fun heq => String.lt_irrefl k (heq ▸ hlt)
      simp [get?, hne, ih htail hmem]

/-- Ordered lists are told apart by what is found in them. -/
theorem Ordered.ext {es fs : Entries α} (he : Ordered es) (hf : Ordered fs)
    (h : ∀ key, get? key es = get? key fs) : es = fs := by
  induction es generalizing fs with
  | nil =>
    cases fs with
    | nil => rfl
    | cons f fs =>
      obtain ⟨k, v⟩ := f
      have := h k
      simp [get?] at this
  | cons e es ih =>
    obtain ⟨k, v⟩ := e
    cases fs with
    | nil =>
      have := h k
      simp [get?] at this
    | cons f fs =>
      obtain ⟨k', v'⟩ := f
      obtain ⟨hehead, hetail⟩ := List.pairwise_cons.1 he
      obtain ⟨hfhead, hftail⟩ := List.pairwise_cons.1 hf
      have hkk : k = k' := by
        rcases key_lt_trichotomy k k' with hlt | heq | hlt
        · have hnone : get? k ((k', v') :: fs) = none := get?_eq_none_of_lt fun e he => by
            rcases List.mem_cons.1 he with rfl | he
            · exact hlt
            · exact String.lt_trans hlt (hfhead e he)
          have := h k
          rw [hnone] at this
          simp [get?] at this
        · exact heq
        · have hnone : get? k' ((k, v) :: es) = none := get?_eq_none_of_lt fun e he => by
            rcases List.mem_cons.1 he with rfl | he
            · exact hlt
            · exact String.lt_trans hlt (hehead e he)
          have := h k'
          rw [hnone] at this
          simp [get?] at this
      subst hkk
      have hvv : v = v' := by simpa [get?] using h k
      subst hvv
      refine congrArg _ (ih hetail hftail fun key => ?_)
      by_cases hk : key = k
      · subst hk
        rw [get?_eq_none_of_lt hehead, get?_eq_none_of_lt hfhead]
      · simpa [get?, hk] using h key

/-- The last pair of a list is inserted last. -/
theorem ofList_append_singleton (pairs : List (String × α)) (p : String × α) :
    ofList (pairs ++ [p]) = insert p.1 p.2 (ofList pairs) :=
  List.foldl_append

/-- An entry behind all others is inserted at the end. -/
theorem insert_of_lt {key : String} (value : α) {es : Entries α} (h : ∀ e ∈ es, e.1 < key) :
    insert key value es = es ++ [(key, value)] := by
  induction es with
  | nil => rfl
  | cons e es ih =>
    obtain ⟨k, v⟩ := e
    have hlt : k < key := h (k, v) List.mem_cons_self
    have hne : key ≠ k := fun heq => String.lt_irrefl k (heq ▸ hlt)
    have hnot : ¬ key < k := fun hgt => String.lt_irrefl k (String.lt_trans hlt hgt)
    rw [insert, if_neg hne, if_neg hnot, ih fun e he => h e (List.mem_cons_of_mem _ he)]
    rfl

/-- A list in order is left as it is. -/
theorem ofList_of_ordered {es : Entries α} (h : Ordered es) : ofList es = es := by
  suffices ∀ front : Entries α, Ordered (front ++ es) →
      es.foldl (fun es p => insert p.1 p.2 es) front = front ++ es from this [] h
  clear h
  induction es with
  | nil => exact fun front _ => (List.append_nil front).symm
  | cons e es ih =>
    intro front hordered
    have hbefore : ∀ d ∈ front, d.1 < e.1 := fun d hd =>
      (List.pairwise_append.1 hordered).2.2 d hd e List.mem_cons_self
    have hnext : front ++ e :: es = front ++ [e] ++ es := by
      rw [List.append_assoc, List.singleton_append]
    rw [List.foldl_cons, insert_of_lt e.2 hbefore, hnext]
    exact ih (front ++ [e]) (hnext ▸ hordered)

/-- The entries with a function applied to every value. -/
def mapValues (f : α → β) (es : Entries α) : Entries β := es.map fun e => (e.1, f e.2)

end Entries

end DashQuery

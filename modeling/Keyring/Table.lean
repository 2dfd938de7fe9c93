import Keyring.Bytes

/-!
# Tables ordered by key

A `Table` assigns values to texts and lists its keys in the byte order of UTF-8, each once. It is
determined by what it finds under each key (`Table.ext_find?`); `find?_insert` and `find?_erase` say
what the operations change, and `restore_insert` and `restore_erase` how a change is undone.
-/

namespace Keyring

/-- The order of keys: that of their bytes. -/
def KeyBefore (a b : String) : Prop := Bytes.ofString a < Bytes.ofString b

instance (a b : String) : Decidable (KeyBefore a b) :=
  inferInstanceAs (Decidable (Bytes.ofString a < Bytes.ofString b))

namespace KeyBefore

variable {a b c : String}

theorem irrefl (a : String) : ¬ KeyBefore a a := List.lt_irrefl (Bytes.ofString a)

theorem trans (h : KeyBefore a b) (h' : KeyBefore b c) : KeyBefore a c := List.lt_trans h h'

theorem ne (h : KeyBefore a b) : a ≠ b := fun e => irrefl b (e ▸ h)

theorem eq_of_not (h : ¬ KeyBefore a b) (h' : ¬ KeyBefore b a) : a = b :=
  Bytes.ofString_injective (List.le_antisymm (List.not_lt.mp h') (List.not_lt.mp h))

end KeyBefore

/-- Keys and values of a list in which each key stands before all later ones. -/
structure Table (α : Type) where
  /-- The keys with their values, in key order. -/
  toList : List (String × α)
  ordered : toList.Pairwise fun x y => KeyBefore x.1 y.1

namespace Table

variable {α β : Type}

instance [DecidableEq α] : DecidableEq (Table α) := fun s t =>
  decidable_of_iff (s.toList = t.toList) (by cases s; cases t; simp)

/-- No keys. -/
def empty : Table α := ⟨[], .nil⟩

instance : Inhabited (Table α) := ⟨empty⟩

/-- The keys in order. -/
def keys (t : Table α) : List String := t.toList.map Prod.fst

/-- The number of keys. -/
def size (t : Table α) : Nat := t.toList.length

/-- The value under the first key of a list that equals the given one. -/
def lookup (key : String) : List (String × α) → Option α
  | [] => none
  | x :: xs => if key = x.1 then some x.2 else lookup key xs

/-- The value under a key. -/
def find? (t : Table α) (key : String) : Option α := lookup key t.toList

/-- Whether a key is there. -/
def contains (t : Table α) (key : String) : Bool := (t.find? key).isSome

/-- Puts a key into an ordered list, in place of the same key. -/
def insertList (key : String) (value : α) : List (String × α) → List (String × α)
  | [] => [(key, value)]
  | x :: xs =>
    if KeyBefore key x.1 then (key, value) :: x :: xs
    else if key = x.1 then (key, value) :: xs
    else x :: insertList key value xs

theorem mem_insertList {key : String} {value : α} {y : String × α} :
    ∀ {xs : List (String × α)}, y ∈ insertList key value xs → y = (key, value) ∨ y ∈ xs
  | [], h => .inl (by simpa [insertList] using h)
  | x :: xs, h => by
    rw [insertList] at h
    split at h
    · simpa using h
    · split at h
      · rcases List.mem_cons.mp h with h | h
        · exact .inl h
        · exact .inr (List.mem_cons_of_mem _ h)
      · rcases List.mem_cons.mp h with h | h
        · exact .inr (h ▸ List.mem_cons_self)
        · exact (mem_insertList h).imp id (List.mem_cons_of_mem _)

theorem ordered_insertList (key : String) (value : α) {xs : List (String × α)}
    (h : xs.Pairwise fun x y => KeyBefore x.1 y.1) :
    (insertList key value xs).Pairwise fun x y => KeyBefore x.1 y.1 := by
  induction xs with
  | nil => simp [insertList]
  | cons x xs ih =>
    obtain ⟨hx, hxs⟩ := List.pairwise_cons.mp h
    rw [insertList]
    split
    · rename_i hk
      refine List.pairwise_cons.mpr ⟨fun y hy => ?_, h⟩
      rcases List.mem_cons.mp hy with rfl | hy
      · exact hk
      · exact hk.trans (hx y hy)
    · rename_i hk
      split
      · rename_i he
        exact List.pairwise_cons.mpr ⟨fun y hy => he ▸ hx y hy, hxs⟩
      · rename_i hne
        refine List.pairwise_cons.mpr ⟨fun y hy => ?_, ih hxs⟩
        rcases mem_insertList hy with rfl | hy
        · exact Decidable.byContradiction fun hc => hne (KeyBefore.eq_of_not hk hc)
        · exact hx y hy

/-- Puts a value under a key, replacing the one there. -/
def insert (t : Table α) (key : String) (value : α) : Table α :=
  ⟨insertList key value t.toList, ordered_insertList key value t.ordered⟩

/-- Removes a key. -/
def erase (t : Table α) (key : String) : Table α :=
  ⟨t.toList.filter fun x => x.1 != key, t.ordered.filter _⟩

/-- Applies a function to every value. -/
def map (f : α → β) (t : Table α) : Table β :=
  ⟨t.toList.map fun x => (x.1, f x.2), List.pairwise_map.mpr t.ordered⟩

/-- Puts the value back that was found under a key, or removes the key if nothing was. -/
def restore (t : Table α) (key : String) : Option α → Table α
  | some value => t.insert key value
  | none => t.erase key

/-- The table of a list, later values replacing earlier ones under the same key. -/
def ofList (xs : List (String × α)) : Table α :=
  xs.foldl (fun t x => t.insert x.1 x.2) empty

/-! ### What is found -/

@[simp] theorem find?_empty (key : String) : (empty : Table α).find? key = none := rfl

theorem lookup_eq_none {key : String} {xs : List (String × α)} (h : ∀ x ∈ xs, x.1 ≠ key) :
    lookup key xs = none := by
  induction xs with
  | nil => rfl
  | cons x xs ih =>
    obtain ⟨hx, hxs⟩ := List.forall_mem_cons.mp h
    rw [lookup, if_neg (Ne.symm hx), ih hxs]

theorem lookup_insertList (key k : String) (value : α) (xs : List (String × α)) :
    lookup k (insertList key value xs) = if k = key then some value else lookup k xs := by
  induction xs with
  | nil => simp [insertList, lookup]
  | cons x xs ih =>
    rw [insertList]
    split
    · simp [lookup]
    · split
      · rename_i he
        by_cases h : k = key <;> simp [lookup, h, ← he]
      · rename_i hne
        by_cases h : k = key
        · simp [lookup, h, hne] at ih ⊢
          exact ih
        · simp [lookup, h, ih]

theorem find?_insert (t : Table α) (key k : String) (value : α) :
    (t.insert key value).find? k = if k = key then some value else t.find? k :=
  lookup_insertList key k value t.toList

theorem lookup_filter_ne (key k : String) (xs : List (String × α)) :
    lookup k (xs.filter fun x => x.1 != key) = if k = key then none else lookup k xs := by
  induction xs with
  | nil => simp [lookup]
  | cons x xs ih =>
    by_cases hx : x.1 = key
    · by_cases h : k = key <;> simp_all [lookup]
    · by_cases h : k = x.1 <;> simp_all [lookup]

theorem find?_erase (t : Table α) (key k : String) :
    (t.erase key).find? k = if k = key then none else t.find? k :=
  lookup_filter_ne key k t.toList

theorem find?_restore (t : Table α) (key k : String) (found : Option α) :
    (t.restore key found).find? k = if k = key then found else t.find? k := by
  cases found with
  | none => exact find?_erase t key k
  | some value => exact find?_insert t key k value

theorem lookup_map (f : α → β) (k : String) (xs : List (String × α)) :
    lookup k (xs.map fun x => (x.1, f x.2)) = (lookup k xs).map f := by
  induction xs with
  | nil => rfl
  | cons x xs ih => by_cases h : k = x.1 <;> simp [lookup, h, ih]

theorem find?_map (f : α → β) (t : Table α) (k : String) : (t.map f).find? k = (t.find? k).map f :=
  lookup_map f k t.toList

theorem lookup_of_mem {x : String × α} {xs : List (String × α)}
    (h : xs.Pairwise fun x y => KeyBefore x.1 y.1) (hx : x ∈ xs) : lookup x.1 xs = some x.2 := by
  induction xs with
  | nil => cases hx
  | cons y xs ih =>
    obtain ⟨hy, hxs⟩ := List.pairwise_cons.mp h
    rcases List.mem_cons.mp hx with rfl | hx
    · simp [lookup]
    · rw [lookup, if_neg (hy x hx).ne.symm, ih hxs hx]

theorem mem_of_lookup {key : String} {value : α} {xs : List (String × α)}
    (h : lookup key xs = some value) : (key, value) ∈ xs := by
  induction xs with
  | nil => simp [lookup] at h
  | cons x xs ih =>
    rw [lookup] at h
    split at h
    · rename_i hk
      obtain rfl := Option.some.inj h
      exact hk ▸ List.mem_cons_self
    · exact List.mem_cons_of_mem _ (ih h)

theorem mem_toList_iff {t : Table α} {key : String} {value : α} :
    (key, value) ∈ t.toList ↔ t.find? key = some value :=
  ⟨fun h => lookup_of_mem t.ordered h, mem_of_lookup⟩

/-- In an ordered list what comes before an element stands in front of it. -/
theorem mem_of_keyBefore {before after : List (String × α)} {x y : String × α}
    (h : (before ++ x :: after).Pairwise fun x y => KeyBefore x.1 y.1)
    (hy : y ∈ before ++ x :: after) (hlt : KeyBefore y.1 x.1) : y ∈ before := by
  have hlater := (List.pairwise_cons.1 (List.pairwise_append.1 h).2.1).1
  rcases List.mem_append.1 hy with hy | hy
  · exact hy
  · rcases List.mem_cons.1 hy with rfl | hy
    · exact absurd hlt (KeyBefore.irrefl _)
    · exact absurd (hlt.trans (hlater y hy)) (KeyBefore.irrefl _)

theorem lookup_eq (name : String) (xs : List (String × α)) : xs.lookup name = lookup name xs := by
  induction xs with
  | nil => rfl
  | cons x xs ih =>
    rw [List.lookup_cons, lookup, ih]
    by_cases h : name = x.1
    · rw [if_pos h, h, beq_self_eq_true]
    · rw [if_neg h, beq_false_of_ne h]

theorem mem_keys_iff {t : Table α} {key : String} : key ∈ t.keys ↔ ∃ value, t.find? key = some value := by
  constructor
  · intro h
    obtain ⟨⟨k, v⟩, hx, rfl⟩ := List.mem_map.mp h
    exact ⟨v, mem_toList_iff.mp hx⟩
  · rintro ⟨v, h⟩
    exact List.mem_map.mpr ⟨(key, v), mem_toList_iff.mpr h, rfl⟩

theorem contains_iff {t : Table α} {key : String} : t.contains key = true ↔ key ∈ t.keys := by
  rw [contains, Option.isSome_iff_exists, mem_keys_iff]

theorem contains_eq_false_iff {t : Table α} {key : String} :
    t.contains key = false ↔ key ∉ t.keys := by
  rw [← Bool.not_eq_true, contains_iff]

theorem mem_keys_insert {t : Table α} {key k : String} {value : α} :
    k ∈ (t.insert key value).keys ↔ k = key ∨ k ∈ t.keys := by
  rw [mem_keys_iff, mem_keys_iff, find?_insert]
  by_cases h : k = key <;> simp [h]

theorem mem_keys_erase {t : Table α} {key k : String} :
    k ∈ (t.erase key).keys ↔ k ≠ key ∧ k ∈ t.keys := by
  rw [mem_keys_iff, mem_keys_iff, find?_erase]
  by_cases h : k = key <;> simp [h]

@[simp] theorem length_keys (t : Table α) : t.keys.length = t.size := List.length_map ..

theorem ordered_keys (t : Table α) : t.keys.Pairwise KeyBefore := List.pairwise_map.mpr t.ordered

/-! ### A table is what it finds -/

theorem toList_eq_of_lookup {xs ys : List (String × α)}
    (hx : xs.Pairwise fun x y => KeyBefore x.1 y.1) (hy : ys.Pairwise fun x y => KeyBefore x.1 y.1)
    (h : ∀ k, lookup k xs = lookup k ys) : xs = ys := by
  induction xs generalizing ys with
  | nil =>
    cases ys with
    | nil => rfl
    | cons y ys => simpa [lookup] using h y.1
  | cons x xs ih =>
    cases ys with
    | nil => simpa [lookup] using h x.1
    | cons y ys =>
      obtain ⟨hx0, hxs⟩ := List.pairwise_cons.mp hx
      obtain ⟨hy0, hys⟩ := List.pairwise_cons.mp hy
      have mx : (x.1, x.2) ∈ y :: ys := mem_of_lookup (by rw [← h]; simp [lookup])
      have my : (y.1, y.2) ∈ x :: xs := mem_of_lookup (by rw [h]; simp [lookup])
      have hxy : x = y := by
        rcases List.mem_cons.mp mx with e | mx
        · exact e
        · rcases List.mem_cons.mp my with e | my
          · exact e.symm
          · exact absurd ((hx0 _ my).trans (hy0 _ mx)) (KeyBefore.irrefl _)
      subst hxy
      congr 1
      refine ih hxs hys fun k => ?_
      by_cases hk : k = x.1
      · subst hk
        rw [lookup_eq_none fun z hz => (hx0 z hz).ne.symm, lookup_eq_none fun z hz => (hy0 z hz).ne.symm]
      · simpa [lookup, hk] using h k

@[ext] theorem ext_find? {s t : Table α} (h : ∀ k, s.find? k = t.find? k) : s = t := by
  obtain ⟨xs, hx⟩ := s
  obtain ⟨ys, hy⟩ := t
  obtain rfl := toList_eq_of_lookup hx hy h
  rfl

theorem find?_foldl_insert (xs : List (String × α)) (t : Table α) (k : String)
    (h : xs.Pairwise fun x y => KeyBefore x.1 y.1) :
    (xs.foldl (fun t x => t.insert x.1 x.2) t).find? k = (lookup k xs).or (t.find? k) := by
  induction xs generalizing t with
  | nil => rfl
  | cons x xs ih =>
    obtain ⟨hx, hxs⟩ := List.pairwise_cons.1 h
    rw [List.foldl_cons, ih _ hxs, find?_insert, lookup]
    by_cases hk : k = x.1
    · rw [if_pos hk, if_pos hk, hk, lookup_eq_none fun y hy => (hx y hy).ne.symm]
      rfl
    · rw [if_neg hk, if_neg hk]

/-- A table is the table of its list. -/
theorem ofList_toList (t : Table α) : ofList t.toList = t :=
  ext_find? fun k => by
    rw [ofList, find?_foldl_insert _ _ _ t.ordered, find?_empty, Option.or_none, find?]

/-- Undoing an insertion. -/
theorem restore_insert (t : Table α) (key : String) (value : α) :
    (t.insert key value).restore key (t.find? key) = t :=
  ext_find? fun k => by
    rw [find?_restore, find?_insert]
    split <;> simp_all

/-- Undoing a removal. -/
theorem restore_erase (t : Table α) (key : String) :
    (t.erase key).restore key (t.find? key) = t :=
  ext_find? fun k => by
    rw [find?_restore, find?_erase]
    split <;> simp_all

end Table

end Keyring

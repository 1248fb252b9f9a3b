/-!
# Tables in key order

A table maps texts to values and lists its entries by key, so that what is printed from it does not
depend on the order of insertion.  The order is part of the type: `sorted` says that the keys
ascend strictly, hence no key stands twice.  Main statements: `get?_insert` says what a table
answers after a write, `get?_eq_some_iff` that it answers exactly with its entries.
-/

namespace LecturePlan

/-- A finite map from texts to values, its entries in ascending order of their keys. -/
structure Table (α : Type) where
  entries : List (String × α)
  sorted : entries.Pairwise (fun a b => a.1 < b.1)
deriving DecidableEq

namespace Table

variable {α : Type}

/-! ## 1. Operations -/

/-- The table without entries. -/
def empty : Table α := ⟨[], List.Pairwise.nil⟩

instance : EmptyCollection (Table α) := ⟨empty⟩

instance : Inhabited (Table α) := ⟨empty⟩

/-- Puts an entry at its place in a list that ascends, in place of one with the same key. -/
def insertEntry (k : String) (v : α) : List (String × α) → List (String × α)
  | [] => [(k, v)]
  | e :: es =>
    if k < e.1 then (k, v) :: e :: es
    else if e.1 < k then e :: insertEntry k v es
    else (k, v) :: es

theorem fst_of_mem_insertEntry {k : String} {v : α} {es : List (String × α)} {e : String × α}
    (h : e ∈ insertEntry k v es) : e = (k, v) ∨ e ∈ es := by
  induction es with
  | nil => simpa [insertEntry] using h
  | cons x es ih =>
    simp only [insertEntry] at h
    split at h
    · simpa using h
    · split at h
      · rcases List.mem_cons.mp h with h | h
        · simp [h]
        · rcases ih h with h | h <;> simp [h]
      · rcases List.mem_cons.mp h with h | h <;> simp [h]

theorem pairwise_insertEntry {k : String} {v : α} {es : List (String × α)}
    (h : es.Pairwise (fun a b => a.1 < b.1)) :
    (insertEntry k v es).Pairwise (fun a b => a.1 < b.1) := by
  induction es with
  | nil => simp [insertEntry]
  | cons x es ih =>
    obtain ⟨hx, hes⟩ := List.pairwise_cons.mp h
    simp only [insertEntry]
    split
    · next hk =>
      refine List.pairwise_cons.mpr ⟨fun e he => ?_, h⟩
      rcases List.mem_cons.mp he with rfl | he
      · exact hk
      · exact String.lt_trans hk (hx e he)
    · next hk =>
      split
      · next hk' =>
        refine List.pairwise_cons.mpr ⟨fun e he => ?_, ih hes⟩
        rcases fst_of_mem_insertEntry he with rfl | he
        · exact hk'
        · exact hx e he
      · next hk' =>
        have hxk : x.1 = k := String.le_antisymm hk hk'
        exact List.pairwise_cons.mpr ⟨fun e he => hxk ▸ hx e he, hes⟩

/-- Writes the value of a key; an earlier value is replaced. -/
def insert (t : Table α) (k : String) (v : α) : Table α :=
  ⟨insertEntry k v t.entries, pairwise_insertEntry t.sorted⟩

/-- The value of a key. -/
def get? (t : Table α) (k : String) : Option α := t.entries.lookup k

/-- Whether a key has a value. -/
def contains (t : Table α) (k : String) : Bool := (t.get? k).isSome

/-- The table of a list of entries; of two with one key the later wins. -/
def ofList (es : List (String × α)) : Table α := es.foldl (fun t e => t.insert e.1 e.2) empty

/-- The number of entries. -/
def size (t : Table α) : Nat := t.entries.length

/-- Whether there is no entry. -/
def isEmpty (t : Table α) : Bool := t.entries.isEmpty

/-- The keys, ascending. -/
def keys (t : Table α) : List String := t.entries.map (·.1)

/-- The values, in the order of their keys. -/
def values (t : Table α) : List α := t.entries.map (·.2)

/-! ## 2. What a table answers -/

@[simp] theorem get?_emptyCollection (k : String) : (∅ : Table α).get? k = none := rfl

theorem lookup_insertEntry (k k' : String) (v : α) (es : List (String × α))
    (h : es.Pairwise (fun a b => a.1 < b.1)) :
    (insertEntry k v es).lookup k' = if k' = k then some v else es.lookup k' := by
  induction es with
  | nil =>
    by_cases hk : k' = k
    · simp [insertEntry, hk]
    · have hb : (k' == k) = false := by simpa using hk
      simp [insertEntry, List.lookup_cons, hk, hb]
  | cons x es ih =>
    obtain ⟨hx, hes⟩ := List.pairwise_cons.mp h
    obtain ⟨x1, x2⟩ := x
    simp only [insertEntry]
    split
    · by_cases hk : k' = k
      · simp [hk]
      · have hb : (k' == k) = false := by simpa using hk
        simp [List.lookup_cons, hk, hb]
    · next hlt =>
      split
      · next hgt =>
        by_cases hk : k' = x1
        · have hne : ¬ k' = k := by
            rintro rfl
            exact String.lt_irrefl _ (hk ▸ hgt)
          simp [hk]
          rintro rfl
          exact absurd hk hne
        · have hb : (k' == x1) = false := by simpa using hk
          simp [List.lookup_cons, hb, ih hes]
      · next hgt =>
        have hxk : x1 = k := String.le_antisymm hlt hgt
        by_cases hk : k' = k
        · simp [hk]
        · have hb : (k' == k) = false := by simpa using hk
          simp [List.lookup_cons, hk, hb, hxk]

/-- After a write the key answers with the new value, and every other key as before. -/
theorem get?_insert (t : Table α) (k k' : String) (v : α) :
    (t.insert k v).get? k' = if k' = k then some v else t.get? k' :=
  lookup_insertEntry k k' v t.entries t.sorted

theorem get?_eq_some_iff (t : Table α) (k : String) (v : α) :
    t.get? k = some v ↔ (k, v) ∈ t.entries := by
  obtain ⟨es, h⟩ := t
  simp only [get?]
  induction es with
  | nil => simp
  | cons x es ih =>
    obtain ⟨hx, hes⟩ := List.pairwise_cons.mp h
    obtain ⟨x1, x2⟩ := x
    by_cases hk : k = x1
    · subst hk
      simp only [List.lookup_cons, beq_self_eq_true, Option.some.injEq, List.mem_cons, Prod.mk.injEq,
        true_and]
      constructor
      · rintro rfl
        exact .inl rfl
      · rintro (rfl | hmem)
        · rfl
        · exact absurd (hx _ hmem) (String.lt_irrefl _)
    · have hb : (k == x1) = false := by simpa using hk
      simp [List.lookup_cons, hb, hk, ih hes]

/-- The keys are the texts that have a value. -/
theorem mem_keys (t : Table α) (k : String) : k ∈ t.keys ↔ (t.get? k).isSome = true := by
  rw [Option.isSome_iff_exists, keys, List.mem_map]
  constructor
  · rintro ⟨⟨_, v⟩, he, rfl⟩
    exact ⟨v, (t.get?_eq_some_iff _ v).mpr he⟩
  · rintro ⟨v, hv⟩
    exact ⟨(k, v), (t.get?_eq_some_iff k v).mp hv, rfl⟩

theorem nodup_keys (t : Table α) : t.keys.Nodup := by
  refine List.pairwise_map.mpr (t.sorted.imp ?_)
  intro a b hlt heq
  rw [heq] at hlt
  exact String.lt_irrefl _ hlt

@[simp] theorem length_keys (t : Table α) : t.keys.length = t.size := List.length_map _

end Table

end LecturePlan

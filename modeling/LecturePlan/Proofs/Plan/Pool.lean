import LecturePlan.Plan.Section
/-!
# Pools of media

A file that is asked for is found in its pool or put at its end.  So the ids that were handed out stay
good: pools only grow, and a resource that has a variant never loses it.  The three pools are filled in
one way (`intern`), which is proved here once.
-/

namespace LecturePlan

/-! ## 1. Interning -/

section Intern

variable {α : Type}

/-- The id of the first entry that passes a test, and the pool with an entry that passes it. -/
def intern (id : α → Nat) (test : α → Bool) (fresh : Nat → α) (pool : List α) : Nat × List α :=
  match pool.find? test with
  | some a => (id a, pool)
  | none => (pool.length, pool ++ [fresh pool.length])

/-- Every entry of a pool stands at its id. -/
def Seated (id : α → Nat) (pool : List α) : Prop := ∀ (i : Nat) (a : α), pool[i]? = some a → id a = i

variable {id : α → Nat} {test : α → Bool} {fresh : Nat → α} {pool : List α}

theorem Seated.nil : Seated id [] := fun i a h => by simp at h

theorem Seated.append (h : Seated id pool) {a : α} (ha : id a = pool.length) :
    Seated id (pool ++ [a]) := by
  intro i b hb
  rcases Nat.lt_or_ge i pool.length with hi | hi
  · rw [List.getElem?_append_left hi] at hb
    exact h i b hb
  · rw [List.getElem?_append_right hi, List.getElem?_singleton] at hb
    split at hb
    · next hzero =>
      cases hb
      omega
    · cases hb

theorem Seated.intern (h : Seated id pool) (hfresh : ∀ n, id (fresh n) = n) :
    Seated id (intern id test fresh pool).2 := by
  unfold LecturePlan.intern
  split
  · exact h
  · exact h.append (hfresh _)

/-- What was in the pool stays where it is. -/
theorem prefix_intern : pool <+: (intern id test fresh pool).2 := by
  unfold intern
  split
  · exact List.prefix_rfl
  · exact List.prefix_append _ _

/-- The id that is handed out leads to an entry that passes the test. -/
theorem exists_intern (test : α → Bool) (fresh : Nat → α) (h : Seated id pool)
    (hfresh : ∀ n, test (fresh n) = true) :
    ∃ a, (intern id test fresh pool).2[(intern id test fresh pool).1]? = some a ∧ test a = true := by
  unfold intern
  split
  · next a hfind =>
    obtain ⟨i, hi⟩ := List.mem_iff_getElem?.mp (List.mem_of_find?_eq_some hfind)
    refine ⟨a, ?_, List.find?_some hfind⟩
    rw [h i a hi]
    exact hi
  · exact ⟨fresh pool.length, by simp, hfresh _⟩

end Intern

theorem getElem?_of_prefix {α : Type} {pool pool' : List α} (h : pool <+: pool') {i : Nat} {a : α}
    (ha : pool[i]? = some a) : pool'[i]? = some a := by
  obtain ⟨more, rfl⟩ := h
  obtain ⟨hi, -⟩ := List.getElem?_eq_some_iff.mp ha
  rw [List.getElem?_append_left hi, ha]

theorem internResource_eq (path : Path) (pool : List Resource) :
    internResource path pool =
      intern Resource.id (fun r => r.path == path) (fun n => ⟨n, path, ∅⟩) pool := by
  unfold internResource intern
  cases pool.find? fun r => r.path == path <;> rfl

theorem internImage_eq (path : Path) (pool : List ImageResource) :
    internImage path pool =
      intern ImageResource.id (fun r => r.path == path) (fun n => ⟨n, path⟩) pool := by
  unfold internImage intern
  cases pool.find? fun r => r.path == path <;> rfl

/-! ## 2. Pictures -/

theorem seated_internImage {pool : List ImageResource} (h : Seated ImageResource.id pool)
    (path : Path) : Seated ImageResource.id (internImage path pool).2 := by
  rw [internImage_eq]
  exact h.intern fun _ => rfl

theorem length_le_internImage (path : Path) (pool : List ImageResource) :
    pool.length ≤ (internImage path pool).2.length := by
  rw [internImage_eq]
  exact prefix_intern.length_le

theorem prefix_internImage (path : Path) (pool : List ImageResource) :
    pool <+: (internImage path pool).2 := by
  rw [internImage_eq]
  exact prefix_intern

/-- The id that is handed out leads to the picture. -/
theorem exists_internImage {pool : List ImageResource} (h : Seated ImageResource.id pool)
    (path : Path) :
    ∃ r, (internImage path pool).2[(internImage path pool).1]? = some r ∧ r.path = path := by
  rw [internImage_eq]
  obtain ⟨r, hr, hpath⟩ := exists_intern (fun r : ImageResource => r.path == path)
    (fun n => ⟨n, path⟩) h fun _ => beq_self_eq_true path
  exact ⟨r, hr, beq_iff_eq.mp hpath⟩

theorem internImage_lt {pool : List ImageResource} (h : Seated ImageResource.id pool) (path : Path) :
    (internImage path pool).1 < (internImage path pool).2.length := by
  obtain ⟨r, hr, -⟩ := exists_internImage h path
  exact (List.getElem?_eq_some_iff.mp hr).1

/-! ## 3. Files -/

theorem seated_internResource {pool : List Resource} (h : Seated Resource.id pool) (path : Path) :
    Seated Resource.id (internResource path pool).2 := by
  rw [internResource_eq]
  exact h.intern fun _ => rfl

theorem prefix_internResource (path : Path) (pool : List Resource) :
    pool <+: (internResource path pool).2 := by
  rw [internResource_eq]
  exact prefix_intern

/-- The id that is handed out leads to the file. -/
theorem exists_internResource {pool : List Resource} (h : Seated Resource.id pool) (path : Path) :
    ∃ r, (internResource path pool).2[(internResource path pool).1]? = some r ∧ r.path = path := by
  rw [internResource_eq]
  obtain ⟨r, hr, hpath⟩ := exists_intern (fun r : Resource => r.path == path)
    (fun n => ⟨n, path, ∅⟩) h fun _ => beq_self_eq_true path
  exact ⟨r, hr, beq_iff_eq.mp hpath⟩

/-! ## 4. Variants -/

namespace Resource

@[simp] theorem id_addVariant (r : Resource) (v : Variant) : (r.addVariant v).id = r.id := by
  unfold addVariant
  split <;> rfl

@[simp] theorem path_addVariant (r : Resource) (v : Variant) : (r.addVariant v).path = r.path := by
  unfold addVariant
  split <;> rfl

/-- A resource has a variant that was added, and keeps the others. -/
theorem contains_addVariant (r : Resource) (v : Variant) (key : String) :
    (r.addVariant v).variants.contains key = (key == v.key || r.variants.contains key) := by
  unfold addVariant
  split
  · next h =>
    by_cases hk : key = v.key
    · rw [hk, h, Bool.or_true]
    · simp [hk]
  · by_cases hk : key = v.key <;> simp [Table.contains, Table.get?_insert, hk]

end Resource

/-- A pool has a file with a variant of some key at an id. -/
def HasVariant (pool : List Resource) (id : Nat) (key : String) : Prop :=
  ∃ r, pool[id]? = some r ∧ r.variants.contains key = true

theorem getElem?_addVariantTo (id : Nat) (v : Variant) (pool : List Resource) (i : Nat) :
    (addVariantTo id v pool)[i]? =
      pool[i]?.map fun r => if r.id = id then r.addVariant v else r := by
  rw [addVariantTo, List.getElem?_map]

theorem seated_addVariantTo {pool : List Resource} (h : Seated Resource.id pool) (id : Nat)
    (v : Variant) : Seated Resource.id (addVariantTo id v pool) := by
  intro i r hr
  rw [getElem?_addVariantTo, Option.map_eq_some_iff] at hr
  obtain ⟨r', hr', rfl⟩ := hr
  split
  · rw [Resource.id_addVariant, h i r' hr']
  · exact h i r' hr'

theorem HasVariant.addVariantTo {pool : List Resource} {id : Nat} {key : String}
    (h : HasVariant pool id key) (id' : Nat) (v : Variant) :
    HasVariant (addVariantTo id' v pool) id key := by
  obtain ⟨r, hr, hkey⟩ := h
  refine ⟨if r.id = id' then r.addVariant v else r, by rw [getElem?_addVariantTo, hr]; rfl, ?_⟩
  split
  · rw [Resource.contains_addVariant, hkey, Bool.or_true]
  · exact hkey

theorem seated_internVariant {pool : List Resource} (h : Seated Resource.id pool) (path : Path)
    (v : Variant) : Seated Resource.id (internVariant path v pool).2 :=
  seated_addVariantTo (seated_internResource h path) _ v

/-- A variant that a pool has is there for good. -/
theorem HasVariant.internVariant {pool : List Resource} {id : Nat} {key : String}
    (h : HasVariant pool id key) (path : Path) (v : Variant) :
    HasVariant (internVariant path v pool).2 id key := by
  obtain ⟨r, hr, hkey⟩ := h
  have hfound : HasVariant (internResource path pool).2 id key :=
    ⟨r, getElem?_of_prefix (prefix_internResource path pool) hr, hkey⟩
  exact hfound.addVariantTo _ v

/-- The id that is handed out leads to the variant that was asked for. -/
theorem hasVariant_internVariant {pool : List Resource} (h : Seated Resource.id pool) (path : Path)
    (v : Variant) : HasVariant (internVariant path v pool).2 (internVariant path v pool).1 v.key := by
  obtain ⟨r, hr, -⟩ := exists_internResource h path
  have hid : r.id = (internResource path pool).1 := seated_internResource h path _ r hr
  refine ⟨r.addVariant v, ?_, ?_⟩
  · rw [LecturePlan.internVariant, getElem?_addVariantTo, hr, Option.map_some, if_pos hid]
  · rw [Resource.contains_addVariant, beq_self_eq_true, Bool.true_or]

end LecturePlan

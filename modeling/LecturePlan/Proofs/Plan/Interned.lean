import LecturePlan.Proofs.Plan.Pool
import LecturePlan.Proofs.Plan.VariantKey
import Mathlib.Logic.Function.Basic
/-!
# Pools of what was asked for

A file stands in its pool once, and a variant of it under its own key.  So a place in a pool and a key
lead back to the file and the variant that were asked for, and two askers are led to one place exactly if
they asked for one thing.

- `Ordered` holds of a pool that is filled by `intern`: an entry stands at its id, and paths are distinct.
- `Pooled` adds what is known of the variants.  That a variant which finds its key taken is there already
  is where keys have to tell variants apart (`Variant.key_inj`).
- `PoolGrows` says that a pool only grows, in entries and in variants of an entry.
- `Plan.Asks` says all that one step of a walk may do to the pools of a plan: nothing, or ask one of them
  for a file.  Pools in order stay in order, and all of them only grow.
-/

namespace LecturePlan

/-! ## 1. Pools in order -/

section Ordered

variable {α : Type} {id : α → Nat} {path : α → Path} {pool : List α}

/-- **A pool in order**: every entry stands at its id, and no path stands twice. -/
structure Ordered (id : α → Nat) (path : α → Path) (pool : List α) : Prop where
  seated : Seated id pool
  paths : (pool.map path).Nodup

namespace Ordered

theorem nil : Ordered id path [] := ⟨.nil, List.nodup_nil⟩

/-- Only a path that is not there yet is added. -/
theorem intern (h : Ordered id path pool) {file : Path} {fresh : Nat → α} (hid : ∀ n, id (fresh n) = n)
    (hpath : ∀ n, path (fresh n) = file) :
    Ordered id path (intern id (fun a => path a == file) fresh pool).2 := by
  refine ⟨h.seated.intern hid, ?_⟩
  unfold LecturePlan.intern
  split
  · exact h.paths
  · next hnone =>
    rw [List.map_append, List.map_singleton, hpath, List.nodup_append]
    refine ⟨h.paths, by simp, fun file' hmem file'' hfile => ?_⟩
    obtain ⟨a, ha, rfl⟩ := List.mem_map.mp hmem
    rw [List.mem_singleton.mp hfile]
    simpa using List.find?_eq_none.mp hnone a ha

/-- Two places are one exactly if the paths there are. -/
theorem place_eq_iff (h : Ordered id path pool) {i j : Nat} {a b : α} (ha : pool[i]? = some a)
    (hb : pool[j]? = some b) : i = j ↔ path a = path b := by
  constructor
  · rintro rfl
    rw [Option.some.inj (ha.symm.trans hb)]
  · intro hpath
    have hia : (pool.map path)[i]? = some (path a) := by rw [List.getElem?_map, ha]; rfl
    have hjb : (pool.map path)[j]? = some (path a) := by rw [List.getElem?_map, hb, hpath]; rfl
    obtain ⟨hi, -⟩ := List.getElem?_eq_some_iff.mp hia
    exact (List.getElem?_inj hi h.paths).mp (hia.trans hjb.symm)

end Ordered

end Ordered

theorem Ordered.internImage {pool : List ImageResource}
    (h : Ordered ImageResource.id ImageResource.path pool) (path : Path) :
    Ordered ImageResource.id ImageResource.path (internImage path pool).2 := by
  rw [internImage_eq]
  exact h.intern (fun _ => rfl) fun _ => rfl

theorem Ordered.internResource {pool : List Resource} (h : Ordered Resource.id Resource.path pool)
    (path : Path) : Ordered Resource.id Resource.path (internResource path pool).2 := by
  rw [internResource_eq]
  exact h.intern (fun _ => rfl) fun _ => rfl

/-! ## 2. Variants -/

/-- **A variant that makes sense**: it has a fit exactly if it is of a video, and its window begins and
ends inside of the file and is not empty. -/
structure Variant.Proper (video : Bool) (v : Variant) : Prop where
  fit : v.fit.isSome = video
  begin_ne : v.clipBegin ≠ .end'
  end_ne : v.clipEnd ≠ .start
  begin_pos : ∀ t, v.clipBegin = .at' t → 0 < t.total
  end_pos : ∀ t, v.clipEnd = .at' t → 0 < t.total
  begin_lt_end : ∀ b e, v.clipBegin = .at' b → v.clipEnd = .at' e → b.total < e.total

/-- **A pool of video or audio files.**  It is in order, and what stands under a key is a variant that
makes sense and has that key. -/
structure Pooled (video : Bool) (pool : List Resource) : Prop where
  ordered : Ordered Resource.id Resource.path pool
  variants : ∀ r ∈ pool, ∀ key v, r.variants.get? key = some v → key = v.key ∧ v.Proper video

namespace Resource

/-- A variant that finds its key taken leaves the one that is there. -/
theorem get?_addVariant (r : Resource) (v : Variant) (key : String) :
    (r.addVariant v).variants.get? key =
      if key = v.key then some ((r.variants.get? v.key).getD v) else r.variants.get? key := by
  unfold addVariant Table.contains
  cases hv : r.variants.get? v.key with
  | some w =>
    by_cases hkey : key = v.key
    · simp [hkey, hv]
    · simp [hkey]
  | none =>
    by_cases hkey : key = v.key <;> simp [Table.get?_insert, hkey]

end Resource

namespace Pooled

variable {video : Bool} {pool : List Resource}

theorem nil : Pooled video [] := ⟨.nil, fun _ hr => absurd hr List.not_mem_nil⟩

theorem internResource (h : Pooled video pool) (path : Path) :
    Pooled video (internResource path pool).2 := by
  refine ⟨h.ordered.internResource path, ?_⟩
  rw [internResource_eq]
  unfold intern
  split
  · exact h.variants
  · refine List.forall_mem_append.mpr ⟨h.variants, List.forall_mem_singleton.mpr fun key v hv => ?_⟩
    cases hv

/-- The variant under a key is the one that is asked for by the key. -/
theorem get?_addVariant (h : Pooled video pool) {r : Resource} (hr : r ∈ pool) (v : Variant)
    (key : String) :
    (r.addVariant v).variants.get? key = if key = v.key then some v else r.variants.get? key := by
  rw [Resource.get?_addVariant]
  cases hv : r.variants.get? v.key with
  | none => rfl
  | some w =>
    have hw : v = w := Variant.key_inj (h.variants r hr _ w hv).1
    rw [hw]
    rfl

theorem addVariantTo (h : Pooled video pool) (id : Nat) {v : Variant} (hv : v.Proper video) :
    Pooled video (addVariantTo id v pool) := by
  refine ⟨⟨seated_addVariantTo h.ordered.seated id v, ?_⟩, ?_⟩
  · have hpaths : (LecturePlan.addVariantTo id v pool).map Resource.path = pool.map Resource.path := by
      rw [LecturePlan.addVariantTo, List.map_map]
      refine List.map_congr_left fun r _ => ?_
      rw [Function.comp_apply]
      split
      · exact r.path_addVariant v
      · rfl
    rw [hpaths]
    exact h.ordered.paths
  · intro r' hr' key w hw
    obtain ⟨r, hr, rfl⟩ := List.mem_map.mp hr'
    split at hw
    · rw [h.get?_addVariant hr] at hw
      split at hw
      · next hkey =>
        cases hw
        exact ⟨hkey, hv⟩
      · exact h.variants r hr key w hw
    · exact h.variants r hr key w hw

theorem internVariant (h : Pooled video pool) (path : Path) {v : Variant} (hv : v.Proper video) :
    Pooled video (internVariant path v pool).2 :=
  (h.internResource path).addVariantTo _ hv

end Pooled

/-! ## 3. What stands at a place -/

/-- The file at a place of a pool, and its variant under a key. -/
def variantAt? (pool : List Resource) (id : Nat) (key : String) : Option (Path × Variant) :=
  pool[id]?.bind fun r => (r.variants.get? key).map fun v => (r.path, v)

theorem variantAt?_eq_some_iff {pool : List Resource} {id : Nat} {key : String} {path : Path}
    {v : Variant} :
    variantAt? pool id key = some (path, v) ↔
      ∃ r, pool[id]? = some r ∧ r.variants.get? key = some v ∧ r.path = path := by
  simp only [variantAt?, Option.bind_eq_some_iff, Option.map_eq_some_iff, Prod.mk.injEq]
  constructor
  · rintro ⟨r, hr, _, hv, hpath, rfl⟩
    exact ⟨r, hr, hv, hpath⟩
  · rintro ⟨r, hr, hv, hpath⟩
    exact ⟨r, hr, v, hv, hpath, rfl⟩

/-- **What is asked for is what is found**, at the place that is handed out. -/
theorem Pooled.variantAt?_internVariant {video : Bool} {pool : List Resource} (h : Pooled video pool)
    (path : Path) (v : Variant) :
    variantAt? (LecturePlan.internVariant path v pool).2 (LecturePlan.internVariant path v pool).1 v.key =
      some (path, v) := by
  have hfound := h.internResource path
  obtain ⟨r, hr, hpath⟩ := exists_internResource h.ordered.seated path
  have hid : r.id = (LecturePlan.internResource path pool).1 := hfound.ordered.seated _ r hr
  refine variantAt?_eq_some_iff.mpr ⟨r.addVariant v, ?_, ?_, ?_⟩
  · rw [LecturePlan.internVariant, getElem?_addVariantTo, hr, Option.map_some, if_pos hid]
  · rw [hfound.get?_addVariant (List.mem_of_getElem? hr), if_pos rfl]
  · rw [Resource.path_addVariant, hpath]

/-- What is found under a key makes sense and has that key. -/
theorem Pooled.proper {video : Bool} {pool : List Resource} (h : Pooled video pool) {id : Nat}
    {key : String} {path : Path} {v : Variant} (hv : variantAt? pool id key = some (path, v)) :
    key = v.key ∧ v.Proper video := by
  obtain ⟨r, hr, hkey, -⟩ := variantAt?_eq_some_iff.mp hv
  exact h.variants r (List.mem_of_getElem? hr) key v hkey

/-- Two places are one exactly if the files there are. -/
theorem Pooled.place_eq_iff {video : Bool} {pool : List Resource} (h : Pooled video pool) {i j : Nat}
    {key key' : String} {path path' : Path} {v w : Variant}
    (hv : variantAt? pool i key = some (path, v)) (hw : variantAt? pool j key' = some (path', w)) :
    i = j ↔ path = path' := by
  obtain ⟨r, hr, -, rfl⟩ := variantAt?_eq_some_iff.mp hv
  obtain ⟨r', hr', -, rfl⟩ := variantAt?_eq_some_iff.mp hw
  exact h.ordered.place_eq_iff hr hr'

/-! ## 4. Growth -/

/-- **A pool only grows**: an entry stays at its place with its id, its path and its variants. -/
def PoolGrows (pool pool' : List Resource) : Prop :=
  ∀ (i : Nat) (r : Resource), pool[i]? = some r → ∃ r', pool'[i]? = some r' ∧ r'.id = r.id ∧
    r'.path = r.path ∧ ∀ key v, r.variants.get? key = some v → r'.variants.get? key = some v

namespace PoolGrows

variable {pool pool' pool'' : List Resource}

theorem refl (pool : List Resource) : PoolGrows pool pool :=
  fun _ r hr => ⟨r, hr, rfl, rfl, fun _ _ hv => hv⟩

theorem trans (h : PoolGrows pool pool') (h' : PoolGrows pool' pool'') : PoolGrows pool pool'' := by
  intro i r hr
  obtain ⟨r', hr', hid, hpath, hvariants⟩ := h i r hr
  obtain ⟨r'', hr'', hid', hpath', hvariants'⟩ := h' i r' hr'
  exact ⟨r'', hr'', hid'.trans hid, hpath'.trans hpath,
    fun key v hv => hvariants' key v (hvariants key v hv)⟩

/-- A variant that is added to an entry hides no other one. -/
theorem addVariantTo (pool : List Resource) (id : Nat) (v : Variant) :
    PoolGrows pool (addVariantTo id v pool) := by
  intro i r hr
  refine ⟨if r.id = id then r.addVariant v else r, by rw [getElem?_addVariantTo, hr]; rfl, ?_⟩
  split
  · refine ⟨r.id_addVariant v, r.path_addVariant v, fun key w hw => ?_⟩
    rw [Resource.get?_addVariant]
    split
    · next hkey => rw [← hkey, hw]; rfl
    · exact hw
  · exact ⟨rfl, rfl, fun _ _ hw => hw⟩

theorem internVariant (pool : List Resource) (path : Path) (v : Variant) :
    PoolGrows pool (internVariant path v pool).2 := by
  have hfound : PoolGrows pool (internResource path pool).2 := fun _ r hr =>
    ⟨r, getElem?_of_prefix (prefix_internResource path pool) hr, rfl, rfl, fun _ _ hv => hv⟩
  exact hfound.trans (addVariantTo _ _ v)

/-- What stands at a place goes on standing there. -/
theorem variantAt? (h : PoolGrows pool pool') {id : Nat} {key : String} {path : Path} {v : Variant}
    (hv : variantAt? pool id key = some (path, v)) :
    LecturePlan.variantAt? pool' id key = some (path, v) := by
  obtain ⟨r, hr, hkey, rfl⟩ := variantAt?_eq_some_iff.mp hv
  obtain ⟨r', hr', -, hpath, hvariants⟩ := h id r hr
  exact variantAt?_eq_some_iff.mpr ⟨r', hr', hvariants key v hkey, hpath⟩

end PoolGrows

/-! ## 5. The pools of a plan -/

namespace Plan

/-- The pool of video files, or that of audio files. -/
def pool (plan : Plan) (video : Bool) : List Resource := if video then plan.videos else plan.audios

/-- **The pools of a plan are in order.** -/
structure Interned (plan : Plan) : Prop where
  images : Ordered ImageResource.id ImageResource.path plan.images
  clips : ∀ video, Pooled video (plan.pool video)

/-- **The pools of a plan only grow.** -/
structure PoolsGrow (p q : Plan) : Prop where
  images : p.images <+: q.images
  clips : ∀ video, PoolGrows (p.pool video) (q.pool video)

/-- **What one step may do to the pools**: nothing, or ask one of them for a file. -/
inductive Asks (p q : Plan) : Prop where
  | same (himages : q.images = p.images) (hclips : q.pool = p.pool)
  | image (path : Path) (himages : q.images = (internImage path p.images).2)
    (hclips : q.pool = p.pool)
  | clip (video : Bool) (path : Path) (v : Variant) (hv : v.Proper video)
    (himages : q.images = p.images)
    (hclips : q.pool = Function.update p.pool video (internVariant path v (p.pool video)).2)

/-- Whatever is set in the pool that is asked, the other one keeps. -/
theorem forall_update {pools : Bool → List Resource} {video : Bool} {pool : List Resource}
    {I : Bool → List Resource → Prop} (hasked : I video pool) (h : ∀ other, I other (pools other))
    (other : Bool) : I other (Function.update pools video pool other) := by
  by_cases hsame : other = video
  · rw [hsame, Function.update_self]
    exact hasked
  · rw [Function.update_of_ne hsame]
    exact h other

/-- Pools in order stay in order. -/
theorem Interned.asks {p q : Plan} (h : p.Interned) (hasks : p.Asks q) : q.Interned := by
  cases hasks with
  | same himages hclips => exact ⟨himages ▸ h.images, hclips ▸ h.clips⟩
  | image path himages hclips => exact ⟨himages ▸ h.images.internImage path, hclips ▸ h.clips⟩
  | clip video path v hv himages hclips =>
    refine ⟨himages ▸ h.images, ?_⟩
    rw [hclips]
    exact forall_update ((h.clips video).internVariant path hv) h.clips

namespace PoolsGrow

theorem refl (p : Plan) : p.PoolsGrow p := ⟨List.prefix_rfl, fun video => .refl (p.pool video)⟩

theorem trans {p q r : Plan} (h : p.PoolsGrow q) (h' : q.PoolsGrow r) : p.PoolsGrow r :=
  ⟨h.images.trans h'.images, fun video => (h.clips video).trans (h'.clips video)⟩

theorem of_asks {p q : Plan} (h : p.Asks q) : p.PoolsGrow q := by
  cases h with
  | same himages hclips =>
    exact ⟨himages ▸ List.prefix_rfl, fun video => hclips ▸ .refl (p.pool video)⟩
  | image path himages hclips =>
    exact ⟨himages ▸ prefix_internImage path p.images, fun video => hclips ▸ .refl (p.pool video)⟩
  | clip video path v hv himages hclips =>
    refine ⟨himages ▸ List.prefix_rfl, ?_⟩
    rw [hclips]
    exact forall_update (I := fun other pool => PoolGrows (p.pool other) pool)
      (.internVariant (p.pool video) path v) fun other => .refl (p.pool other)

end PoolsGrow

end Plan

end LecturePlan

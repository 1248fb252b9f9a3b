import LecturePlan.Proofs.Plan.Interned
/-!
# What frames show

A frame names a picture or a video by its place in a pool.  What it shows is the file there, and a
statement about what is seen is about files.  Pools only grow and a file keeps its place, so a frame
goes on showing what it shows while a plan is made (`Plan.Keeps`).
-/

namespace LecturePlan

/-- What is seen, by its file and not by a place in a pool. -/
inductive Shown where
  /-- A page of a declared deck, counted from one. -/
  | slide (deck : String) (page : Nat) (fit : Fit)
  | image (path : Path) (fit : Fit)
  /-- The last frame of a video file, trimmed and scaled as the key of a variant says. -/
  | video (path : Path) (variant : String)
deriving DecidableEq

/-- What a frame of a plan shows, if that is in the plan. -/
def Plan.shown? (p : Plan) : Frame → Option Shown
  | .slide deck page fit => some (.slide deck page fit)
  | .image id fit => p.images[id]?.map fun r => .image r.path fit
  | .video id key =>
    (p.videos[id]?.filter fun r => r.variants.contains key).map fun r => .video r.path key

/-- One plan shows what another shows. -/
def Plan.Keeps (p q : Plan) : Prop :=
  ∀ frame shown, p.shown? frame = some shown → q.shown? frame = some shown

namespace Plan

theorem shown?_image_eq_some_iff {p : Plan} {id : Nat} {fit : Fit} {shown : Shown} :
    p.shown? (.image id fit) = some shown ↔
      ∃ r, p.images[id]? = some r ∧ Shown.image r.path fit = shown := by
  rw [shown?, Option.map_eq_some_iff]

theorem shown?_video_eq_some_iff {p : Plan} {id : Nat} {key : String} {shown : Shown} :
    p.shown? (.video id key) = some shown ↔
      ∃ r, p.videos[id]? = some r ∧ r.variants.contains key = true ∧
        Shown.video r.path key = shown := by
  simp only [shown?, Option.map_eq_some_iff, Option.filter_eq_some_iff, and_assoc]

namespace Keeps

variable {p q r : Plan}

theorem refl (p : Plan) : p.Keeps p := fun _ _ h => h

theorem trans (hpq : p.Keeps q) (hqr : q.Keeps r) : p.Keeps r :=
  fun frame shown h => hqr frame shown (hpq frame shown h)

/-- Larger pools show what was shown: pictures stay in front, and every video file is where it was,
with the variants that it had. -/
theorem of_pools (himages : p.images <+: q.images)
    (hvideos : ∀ (id : Nat) (v : Resource), p.videos[id]? = some v →
      ∃ v', q.videos[id]? = some v' ∧ v'.path = v.path ∧
        ∀ key, v.variants.contains key = true → v'.variants.contains key = true) :
    p.Keeps q := by
  intro frame shown h
  cases frame with
  | slide deck page fit => exact h
  | image id fit =>
    obtain ⟨r, hr, rfl⟩ := shown?_image_eq_some_iff.mp h
    exact shown?_image_eq_some_iff.mpr ⟨r, getElem?_of_prefix himages hr, rfl⟩
  | video id key =>
    obtain ⟨v, hv, hkey, rfl⟩ := shown?_video_eq_some_iff.mp h
    obtain ⟨v', hv', hpath, hvariants⟩ := hvideos id v hv
    exact shown?_video_eq_some_iff.mpr ⟨v', hv', hvariants key hkey, by rw [hpath]⟩

/-- Pools that are the same show the same. -/
theorem of_eq (himages : q.images = p.images) (hvideos : q.videos = p.videos) : p.Keeps q :=
  of_pools (himages ▸ List.prefix_rfl) fun _ v hv => ⟨v, hvideos ▸ hv, rfl, fun _ => id⟩

/-- A picture may be asked for. -/
theorem of_internImage {path : Path} (himages : q.images = (internImage path p.images).2)
    (hvideos : q.videos = p.videos) : p.Keeps q :=
  of_pools (himages ▸ prefix_internImage path p.images) fun _ v hv =>
    ⟨v, hvideos ▸ hv, rfl, fun _ => id⟩

/-- A variant of a video may be asked for. -/
theorem of_internVariant {path : Path} {variant : Variant} (himages : q.images = p.images)
    (hvideos : q.videos = (internVariant path variant p.videos).2) : p.Keeps q := by
  refine of_pools (himages ▸ List.prefix_rfl) fun id v hv => ?_
  rw [hvideos, internVariant, getElem?_addVariantTo,
    getElem?_of_prefix (prefix_internResource path p.videos) hv, Option.map_some]
  refine ⟨_, rfl, ?_⟩
  split
  · exact ⟨v.path_addVariant variant, fun key hkey => by
      rw [Resource.contains_addVariant, hkey, Bool.or_true]⟩
  · exact ⟨rfl, fun _ hkey => hkey⟩

/-- So any file may be asked for. -/
theorem of_asks (h : p.Asks q) : p.Keeps q := by
  cases h with
  | same himages hclips => exact of_eq himages (congrFun hclips true)
  | image path himages hclips => exact of_internImage himages (congrFun hclips true)
  | clip video path v hv himages hclips =>
    cases video with
    | true => exact of_internVariant himages (congrFun hclips true)
    | false => exact of_eq himages (congrFun hclips true)

end Keeps

/-- The picture that was asked for is shown. -/
theorem shown?_internImage {p : Plan} (h : Seated ImageResource.id p.images) {path : Path} {q : Plan}
    (hq : q.images = (internImage path p.images).2) (fit : Fit) :
    q.shown? (.image (internImage path p.images).1 fit) = some (.image path fit) := by
  obtain ⟨r, hr, hpath⟩ := exists_internImage h path
  exact shown?_image_eq_some_iff.mpr ⟨r, hq ▸ hr, by rw [hpath]⟩

/-- So is the variant of a video that was asked for. -/
theorem shown?_internVariant {p : Plan} (h : Seated Resource.id p.videos) {path : Path}
    {variant : Variant} {q : Plan} (hq : q.videos = (internVariant path variant p.videos).2) :
    q.shown? (.video (internVariant path variant p.videos).1 variant.key) =
      some (.video path variant.key) := by
  obtain ⟨r, hr, hpath⟩ := exists_internResource h path
  obtain ⟨v, hv, hkey⟩ := hasVariant_internVariant h path variant
  have hsame : v.path = path := by
    rw [internVariant, getElem?_addVariantTo, hr, Option.map_some, Option.some_inj] at hv
    rw [← hv, ← hpath]
    split
    · exact r.path_addVariant variant
    · rfl
  exact shown?_video_eq_some_iff.mpr ⟨v, hq ▸ hv, hkey, by rw [hsame]⟩

end Plan

end LecturePlan

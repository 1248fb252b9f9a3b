import LecturePlan.Proofs.Compile.Origin
import LecturePlan.Proofs.Compile.RequestedPage
import Mathlib.Logic.Function.Basic
/-!
# What is seen

A frame is recorded when a section is made, which may be at a tag that changes the frame.  This module
says what is seen at every place of a document without any walk: `sightAt` reads the slide, image and
video tags in front of the place from left to right.  A start mark is not among them: it drops sections,
and what is seen stays.  The page that a slide tag turns to is the one that is written in it, a whole
number of any size, brought into the deck (`PageRequest.Written.pageIn`).

The frame of each section is the one that is seen at each of the places it comes from
(`shown_eq_sightAt`).  Frames name files by their places in pools, so both sides are told by what they
show.  The walk counts pages in words, and gets to the same pages because those that are remembered lie
in their decks (`inDecks_sightAt`).
-/

namespace LecturePlan

open LecturePlan.Markup
open PageRequest (Written)

/-! ## 1. What is seen at a place -/

/-- What is seen, and what slide tags go on from. -/
structure Sight where
  shown : Shown
  /-- The deck of slide tags that name none. -/
  deck : String
  /-- The page that each deck has shown last. -/
  page : String → Nat

/-- The fit that a tag asks for. -/
def Markup.Tag.fit? (t : Tag) : Option Fit := (t.attr? "fit").bind Fit.ofName?

/-- The page that a slide tag asks for: the one that is written in it, or that of the moment if it only
names a deck. -/
def Markup.Tag.page? (t : Tag) : Option Written :=
  match t.nonEmptyAttr? "page" with
  | some value => Written.ofString? value
  | none => if (t.nonEmptyAttr? "deck").isSome then some .current else none

/-- The pages of every deck are counted in 32 bits. -/
def Declarations.Counted (d : Declarations) : Prop :=
  ∀ id deck, d.deck? id = some deck → deck.pageCount ≤ Word.max32

namespace Sight

/-- Before the first tag the first page of the active deck is seen, and every deck is at its first
page. -/
def start (d : Declarations) : Sight where
  shown := .slide d.activeDeck 1 (((d.deck? d.activeDeck).map Deck.fit).getD .contain)
  deck := d.activeDeck
  page _ := 1

/-- Turns to the page of a deck that is asked for, seen from the page that the deck has shown last. -/
def turn (t : Tag) (id : String) (deck : Deck) (asked : Written) (v : Sight) : Sight :=
  let page := asked.pageIn (v.page id) deck.pageCount
  ⟨.slide id page (t.fit?.getD deck.fit), id, Function.update v.page id page⟩

/-- The deck that a slide tag turns a page of, and the page it asks for, if it is valid: the deck that it
names, or else the deck of the slide tag before it. -/
def target? (d : Declarations) (t : Tag) (v : Sight) : Option (String × Deck × Written) := do
  let id := (t.nonEmptyAttr? "deck").getD v.deck
  let deck ← d.deck? id
  let asked ← t.page?
  some (id, deck, asked)

/-- What a slide tag leads to, if it is valid. -/
def slide? (d : Declarations) (t : Tag) (v : Sight) : Option Sight :=
  (v.target? d t).map fun (id, deck, asked) => v.turn t id deck asked

/-- What an image tag leads to, if its file is there. -/
def image? (s : Scene) (t : Tag) (v : Sight) : Option Sight :=
  (s.file? t).map fun path => { v with shown := .image path (t.fit?.getD .contain) }

/-- What a video tag leads to, if it can be used and its last frame stays. -/
def video? (s : Scene) (t : Tag) (v : Sight) : Option Sight :=
  (s.clip? t).bind fun (path, begin, stop) =>
    if (Progress.keepsFrame s t).1 then
      some { v with shown := .video path (Variant.key ⟨begin, stop, some (t.fit?.getD .contain)⟩) }
    else none

/-- What is seen behind a cue.  A tag that leads nowhere changes nothing, nor does any other tag. -/
def after (s : Scene) (v : Sight) : Cue → Sight
  | .text .. => v
  | .tag _ t =>
    if t.name = "slide" then (v.slide? s.declarations t).getD v
    else if t.name = "image" then (v.image? s t).getD v
    else if t.name = "video" then (v.video? s t).getD v
    else v

theorem after_other {s : Scene} {v : Sight} {around : List Tag} {t : Tag} (hslide : t.name ≠ "slide")
    (himage : t.name ≠ "image") (hvideo : t.name ≠ "video") : v.after s (.tag around t) = v := by
  rw [after, if_neg hslide, if_neg himage, if_neg hvideo]

end Sight

/-- **What is seen behind some cues**, the first of a document. -/
def sightAt (s : Scene) (cues : List Cue) : Sight :=
  cues.foldl (Sight.after s) (.start s.declarations)

theorem sightAt_append_singleton (s : Scene) (cues : List Cue) (c : Cue) :
    sightAt s (cues ++ [c]) = (sightAt s cues).after s c := by
  rw [sightAt, List.foldl_append]
  rfl

/-! ## 2. The pages that decks have shown -/

namespace Sight

variable {d : Declarations} {v w : Sight}

/-- The page that a deck has shown last is one of the deck. -/
def InDecks (d : Declarations) (v : Sight) : Prop :=
  ∀ id deck, d.deck? id = some deck → 1 ≤ v.page id ∧ v.page id ≤ max 1 deck.pageCount

theorem deck?_of_target? {t : Tag} {id : String} {deck : Deck} {asked : Written}
    (h : v.target? d t = some (id, deck, asked)) : d.deck? id = some deck := by
  simp only [target?, Option.bind_eq_bind, Option.bind_eq_some_iff, Option.some.injEq,
    Prod.mk.injEq] at h
  obtain ⟨deck', hdeck, asked', -, rfl, rfl, -⟩ := h
  exact hdeck

theorem InDecks.slide? (h : v.InDecks d) {t : Tag} (hw : v.slide? d t = some w) : w.InDecks d := by
  obtain ⟨⟨id, deck, asked⟩, htarget, rfl⟩ := Option.map_eq_some_iff.mp hw
  intro id' deck' hdeck'
  simp only [turn, Function.update_apply]
  split
  · next heq =>
    rw [heq, deck?_of_target? htarget] at hdeck'
    cases hdeck'
    exact asked.pageIn_mem (v.page id) deck.pageCount
  · exact h id' deck' hdeck'

theorem InDecks.image? {s : Scene} (h : v.InDecks d) {t : Tag} (hw : v.image? s t = some w) :
    w.InDecks d := by
  obtain ⟨path, -, rfl⟩ := Option.map_eq_some_iff.mp hw
  exact h

theorem InDecks.video? {s : Scene} (h : v.InDecks d) {t : Tag} (hw : v.video? s t = some w) :
    w.InDecks d := by
  obtain ⟨⟨path, begin, stop⟩, -, hw⟩ := Option.bind_eq_some_iff.mp hw
  dsimp only at hw
  split at hw
  · cases hw
    exact h
  · cases hw

theorem InDecks.getD (h : v.InDecks d) {found : Option Sight} (hfound : ∀ w, found = some w → w.InDecks d) :
    (found.getD v).InDecks d := by
  cases found with
  | none => exact h
  | some w => exact hfound w rfl

/-- Whatever is met, every deck stays at one of its pages. -/
theorem InDecks.after {s : Scene} (h : v.InDecks s.declarations) :
    ∀ c : Cue, (v.after s c).InDecks s.declarations
  | .text .. => h
  | .tag _ t => by
    rw [Sight.after]
    split
    · exact h.getD fun _ => h.slide?
    split
    · exact h.getD fun _ => h.image?
    split
    · exact h.getD fun _ => h.video?
    · exact h

end Sight

/-- **Every deck is at one of its pages**, wherever one looks. -/
theorem inDecks_sightAt (s : Scene) (cues : List Cue) : (sightAt s cues).InDecks s.declarations := by
  induction cues using List.reverseRecOn with
  | nil => exact fun _ _ _ => ⟨Nat.le_refl 1, Nat.le_max_left ..⟩
  | append_singleton cues c ih =>
    rw [sightAt_append_singleton]
    exact ih.after c

/-! ## 3. The state that frames depend on -/

variable {ρ : Type}

/-- The part of the state that frames are told from. -/
structure View where
  frame : Frame
  slideDeck : String
  pages : Table Nat
  images : List ImageResource
  videos : List Resource

namespace Progress

/-- The view of a state. -/
def view (p : Progress ρ) : View := ⟨p.frame, p.slideDeck, p.pages, p.plan.images, p.plan.videos⟩

theorem view_of_dropped {t : Tag} {p q : Progress ρ} (h : Dropped t p q) : q.view = p.view := by
  obtain ⟨ws, -, -, rfl⟩ := h
  rfl

theorem view_flush (p : Progress ρ) : p.flush.view = p.view := by
  rcases flush_cases p with ⟨-, h⟩ | ⟨-, -, h⟩ <;> rw [h]
  rfl

/-- A mark, the start mark too, leaves what is seen alone. -/
theorem view_mark (s : Scene) (t : Tag) (p : Progress ρ) : (p.mark s t).view = p.view := by
  rcases mark_cases s t p with ⟨h, -⟩ | ⟨name, -, -, h⟩
  · exact view_of_dropped h
  · rw [h, acceptMark]
    by_cases hs : s.declarations.startMark = some name <;>
      by_cases he : s.declarations.endMark = some name <;>
      simp [hs, he, view, setMark, restart, tell]

theorem view_voiceTag [VoiceRegistry ρ] (t : Tag) (p : Progress ρ) :
    (p.voiceTag t).view = p.view := by
  obtain ⟨registry, h | ⟨name, -, -, h⟩⟩ := voiceTag_cases t p
  · rw [view_of_dropped h]
    rfl
  · rw [h]
    rfl

theorem readFit_fst (t : Tag) : (readFit t).1 = t.fit? := by
  unfold readFit Tag.fit?
  cases t.attr? "fit" with
  | none => rfl
  | some value =>
    rw [Option.bind_some]
    cases hfit : Fit.ofName? value <;> simp only [hfit]

/-- An image tag changes what is seen if its file is there. -/
theorem view_image {s : Scene} {t : Tag} {path : Path} (h : s.file? t = some path) (p : Progress ρ) :
    (p.image s t).view =
      let found := internImage path p.plan.images
      { p.view with images := found.2, frame := .image found.1 (t.fit?.getD .contain) } := by
  rcases image_cases s t p with ⟨hnone, -⟩ | ⟨path', hsome, heq⟩
  · cases h.symm.trans hnone
  · cases h.symm.trans hsome
    rw [heq, readFit_fst]
    rfl

/-- A video changes what is seen if its last frame stays. -/
theorem view_addVideo (s : Scene) (t : Tag) (path : Path) (window : ClipBound × ClipBound)
    (p : Progress ρ) :
    (p.addVideo s t path window).view =
      let variant : Variant := ⟨window.1, window.2, some (t.fit?.getD .contain)⟩
      let found := internVariant path variant p.plan.videos
      { p.view with
        videos := found.2
        frame := if (keepsFrame s t).1 then .video found.1 variant.key else p.frame } := by
  rw [addVideo_eq, videoVariant, readFit_fst]
  rfl

/-- Of the page that a slide tag asks for is read what is kept of it. -/
theorem toOption_pageRequest (t : Tag) :
    (pageRequest t).toOption = t.page?.map Written.request := by
  rw [pageRequest, Tag.page?]
  cases t.nonEmptyAttr? "page" with
  | none =>
    dsimp only
    split <;> rfl
  | some value =>
    dsimp only
    rw [PageRequest.ofString?_eq]
    cases Written.ofString? value <;> rfl

theorem toOption_targetIn (s : Scene) (t : Tag) (id : String) :
    (targetIn s t id).toOption =
      (s.declarations.deck? id).bind fun deck =>
        (pageRequest t).toOption.map fun request => (id, deck, request) := by
  rw [targetIn]
  cases pageRequest t <;> cases s.declarations.deck? id <;> rfl

/-- A slide tag leads where it leads from what is seen, if that is the deck in force. -/
theorem toOption_slideTarget (s : Scene) (t : Tag) {p : Progress ρ} {v : Sight}
    (hdeck : p.slideDeck = v.deck) :
    (slideTarget s t p).toOption =
      (v.target? s.declarations t).map fun (id, deck, asked) => (id, deck, asked.request) := by
  rw [Sight.target?, ← hdeck]
  dsimp only
  rcases slideTarget_cases s t p with ⟨id, hid, hnone, h⟩ | ⟨id, hid, h⟩
  · rw [h, hid, Option.getD_some, hnone]
    rfl
  · have hget : (t.nonEmptyAttr? "deck").getD p.slideDeck = id := by
      rcases hid with ⟨hid, -⟩ | ⟨hid, rfl⟩ <;> rw [hid] <;> rfl
    rw [h, hget, toOption_targetIn, toOption_pageRequest]
    cases s.declarations.deck? id <;> cases t.page? <;> rfl

/-- A page that is remembered for one deck is remembered for that deck alone. -/
theorem getD_insert_pages {pages : Table Nat} {page : String → Nat}
    (h : ∀ id, (pages.get? id).getD 1 = page id) (id : String) (n : Nat) (id' : String) :
    ((pages.insert id n).get? id').getD 1 = Function.update page id n id' := by
  rw [Table.get?_insert, Function.update_apply]
  split
  · rfl
  · exact h id'

end Progress

/-! ## 4. What the walk shows -/

/-- The frame in force shows what is seen, and slide tags go on from the same pages. -/
structure Progress.Sees (v : Sight) (p : Progress ρ) : Prop where
  shown : p.plan.shown? p.frame = some v.shown
  deck : p.slideDeck = v.deck
  page : ∀ id, (p.pages.get? id).getD 1 = v.page id

/-- **The walk shows what is seen**, until it has ended. -/
structure Progress.Follows (s : Scene) (seen : List Cue) (p : Progress ρ) : Prop where
  images : Seated ImageResource.id p.plan.images
  videos : Seated Resource.id p.plan.videos
  sees : p.ended = false → p.Sees (sightAt s seen)

namespace Progress

variable {s : Scene} {seen : List Cue} {v : Sight} {p q : Progress ρ}

theorem Sees.of_view (h : p.Sees v) (hview : q.view = p.view) : q.Sees v := by
  have hframe : q.frame = p.frame := congrArg View.frame hview
  have hdeck : q.slideDeck = p.slideDeck := congrArg View.slideDeck hview
  have hpages : q.pages = p.pages := congrArg View.pages hview
  have hkeeps : p.plan.Keeps q.plan :=
    .of_eq (congrArg View.images hview) (congrArg View.videos hview)
  exact ⟨hframe ▸ hkeeps _ _ h.shown, hdeck.trans h.deck, fun id => hpages ▸ h.page id⟩

namespace Follows

theorem start (s : Scene) (c : Config) (root : Tag) (registry : ρ) :
    (Progress.start s c root registry).Follows s [] where
  images := .nil
  videos := .nil
  sees _ := ⟨rfl, rfl, fun _ => rfl⟩

theorem seated_of_view (h : p.Follows s seen) (hview : q.view = p.view) :
    Seated ImageResource.id q.plan.images ∧ Seated Resource.id q.plan.videos := by
  have himages : q.plan.images = p.plan.images := congrArg View.images hview
  have hvideos : q.plan.videos = p.plan.videos := congrArg View.videos hview
  exact ⟨himages ▸ h.images, hvideos ▸ h.videos⟩

theorem of_view (h : p.Follows s seen) (hview : q.view = p.view) (hended : q.ended = p.ended) :
    q.Follows s seen :=
  ⟨(h.seated_of_view hview).1, (h.seated_of_view hview).2,
    fun he => (h.sees (hended ▸ he)).of_view hview⟩

/-- A cue that changes neither what is seen nor the view. -/
theorem stay (h : p.Follows s seen) (he : p.ended = false) {c : Cue}
    (hc : (sightAt s seen).after s c = sightAt s seen) (hview : q.view = p.view) :
    q.Follows s (seen ++ [c]) := by
  refine ⟨(h.seated_of_view hview).1, (h.seated_of_view hview).2, fun _ => ?_⟩
  rw [sightAt_append_singleton, hc]
  exact (h.sees he).of_view hview

/-- A slide tag turns a page. -/
theorem slide (h : p.Follows s seen) (hd : s.declarations.Counted) (he : p.ended = false) {t : Tag}
    (ht : t.name = "slide") (around : List Tag) :
    (p.slide s t).Follows s (seen ++ [.tag around t]) := by
  have hsees := h.sees he
  have hafter : (sightAt s seen).after s (.tag around t) =
      ((sightAt s seen).slide? s.declarations t).getD (sightAt s seen) := by
    rw [Sight.after, if_pos ht]
  have htarget := toOption_slideTarget s t hsees.deck
  rcases slide_cases s t p with ⟨problem, hproblem, heq⟩ | ⟨id, deck, request, hok, heq⟩
  · rw [hproblem] at htarget
    rw [Sight.slide?, Option.map_eq_none_iff.mp htarget.symm] at hafter
    exact h.stay he hafter (by rw [heq]; rfl)
  · rw [hok] at htarget
    obtain ⟨⟨id', deck', asked⟩, hsome, hasked⟩ := Option.map_eq_some_iff.mp htarget.symm
    cases hasked
    rw [Sight.slide?, hsome] at hafter
    -- the walk gets to the page that is written because both numbers it starts from fit 32 bits
    have hdeck : s.declarations.deck? id = some deck := deck?_of_slideTarget hok
    have hlast : deck.pageCount ≤ Word.max32 := hd id deck hdeck
    have hcurrent : (sightAt s seen).page id ≤ Word.max32 :=
      ((inDecks_sightAt s seen id deck hdeck).2).trans (Nat.max_le.mpr ⟨by decide, hlast⟩)
    rw [heq, hsees.page id, readFit_fst,
      PageRequest.resolve_request_eq_pageIn asked hcurrent hlast]
    refine ⟨h.images, h.videos, fun _ => ?_⟩
    rw [sightAt_append_singleton, hafter]
    exact ⟨rfl, rfl, getD_insert_pages hsees.page id _⟩

/-- A cue that changes what is seen, and the view to a frame that shows it. -/
theorem shows (h : p.Follows s seen) (he : p.ended = false) {c : Cue} {shown : Shown} {frame : Frame}
    {images : List ImageResource} {videos : List Resource}
    (hc : (sightAt s seen).after s c = { sightAt s seen with shown })
    (hview : q.view = { p.view with frame, images, videos })
    (himages : Seated ImageResource.id images) (hvideos : Seated Resource.id videos)
    (hshown : q.plan.shown? frame = some shown) : q.Follows s (seen ++ [c]) := by
  have hsees := h.sees he
  have hqimages : q.plan.images = images := congrArg View.images hview
  have hqvideos : q.plan.videos = videos := congrArg View.videos hview
  have hframe : q.frame = frame := congrArg View.frame hview
  have hdeck : q.slideDeck = p.slideDeck := congrArg View.slideDeck hview
  have hpages : q.pages = p.pages := congrArg View.pages hview
  refine ⟨hqimages ▸ himages, hqvideos ▸ hvideos, fun _ => ?_⟩
  rw [sightAt_append_singleton, hc]
  exact ⟨hframe ▸ hshown, hdeck.trans hsees.deck, fun id => hpages ▸ hsees.page id⟩

/-- An image tag shows a picture of the pool. -/
theorem image (h : p.Follows s seen) (he : p.ended = false) {t : Tag} (ht : t.name = "image")
    (around : List Tag) : (p.image s t).Follows s (seen ++ [.tag around t]) := by
  have hafter : (sightAt s seen).after s (.tag around t) =
      ((sightAt s seen).image? s t).getD (sightAt s seen) := by
    rw [Sight.after, ht, if_neg (by decide), if_pos rfl]
  rcases image_cases s t p with ⟨hnone, hdrop⟩ | ⟨path, hsome, -⟩
  · rw [Sight.image?, hnone] at hafter
    exact h.stay he hafter (view_of_dropped hdrop)
  · rw [Sight.image?, hsome] at hafter
    have hview := view_image hsome p
    have hshown := Plan.shown?_internImage h.images (congrArg View.images hview)
      (t.fit?.getD .contain)
    exact h.shows he hafter hview (seated_internImage h.images path) h.videos hshown

/-- A video shows its last frame, if that stays. -/
theorem addVideo (h : p.Follows s seen) (he : p.ended = false) {t : Tag} (ht : t.name = "video")
    (around : List Tag) {path : Path} {window : ClipBound × ClipBound}
    (hclip : s.clip? t = some (path, window)) :
    (p.addVideo s t path window).Follows s (seen ++ [.tag around t]) := by
  have hafter : (sightAt s seen).after s (.tag around t) =
      ((sightAt s seen).video? s t).getD (sightAt s seen) := by
    rw [Sight.after, ht, if_neg (by decide), if_neg (by decide), if_pos rfl]
  have hview := view_addVideo s t path window p
  have hvideos := seated_internVariant h.videos path
    ⟨window.1, window.2, some (t.fit?.getD .contain)⟩
  rw [Sight.video?, hclip, Option.bind_some] at hafter
  cases hkeep : (keepsFrame s t).1 with
  | true =>
    rw [hkeep] at hafter hview
    have hshown := Plan.shown?_internVariant h.videos (congrArg View.videos hview)
    exact h.shows he hafter hview h.images hvideos hshown
  | false =>
    rw [hkeep] at hafter hview
    have hkeeps : p.plan.Keeps (p.addVideo s t path window).plan :=
      .of_internVariant (congrArg View.images hview) (congrArg View.videos hview)
    exact h.shows he hafter hview h.images hvideos (hkeeps _ _ (h.sees he).shown)

/-- Of the clips that are taken, only videos are seen. -/
theorem clip (h : p.Follows s seen) (he : p.ended = false) {t : Tag} (ht : isClip t.name = true)
    (around : List Tag) : (p.clip s t).Follows s (seen ++ [.tag around t]) := by
  by_cases hvideo : t.name = "video"
  · rcases clip_cases s t p with ⟨hnone, hdrop⟩ | ⟨path, window, hsome, heq⟩
    · refine h.stay he ?_ (view_of_dropped hdrop)
      rw [Sight.after, hvideo, if_neg (by decide), if_neg (by decide), if_pos rfl, Sight.video?, hnone]
      rfl
    · rw [heq]
      dsimp only
      rw [if_pos hvideo]
      have hwarned : (p.addWarnings (clipWindow t).2).Follows s seen := h.of_view rfl rfl
      exact hwarned.addVideo he hvideo around hsome
  · have haudio : t.name = "audio" := by simpa [isClip, hvideo] using ht
    refine h.stay he (Sight.after_other (by simp [haudio]) (by simp [haudio]) hvideo) ?_
    rcases clip_cases s t p with ⟨-, hdrop⟩ | ⟨path, window, -, heq⟩
    · exact view_of_dropped hdrop
    · rw [heq]
      dsimp only
      rw [if_neg hvideo, addAudio_eq]
      rfl

theorem enter [VoiceRegistry ρ] (h : p.Follows s seen) (hd : s.declarations.Counted)
    (he : p.ended = false) {t : Tag} (ht : isClip t.name = false) (around : List Tag) :
    (p.enter s t).Follows s (seen ++ [.tag around t]) := by
  have hvideo : t.name ≠ "video" := by
    intro hname
    rw [hname] at ht
    cases ht
  refine enter_cases s t p ?mark ?voice (h.image he · around) (h.slide hd he · around) ?other
  case mark =>
    intro hmark
    exact h.stay he (Sight.after_other (by simp [hmark]) (by simp [hmark]) hvideo) (view_mark s t p)
  case voice =>
    intro hvoice
    exact h.stay he (Sight.after_other (by simp [hvoice]) (by simp [hvoice]) hvideo) (view_voiceTag t p)
  case other =>
    intro hother
    simp only [List.mem_cons, not_or] at hother
    exact h.stay he (Sight.after_other hother.2.2.2.1 hother.2.2.1 hvideo) rfl

end Follows

end Progress

/-- The walk shows what is seen. -/
theorem kept_follows [VoiceRegistry ρ] {s : Scene} (hd : s.declarations.Counted) :
    Kept s fun _ seen (p : Progress ρ) => p.Follows s seen where
  pass _ h he := ⟨h.images, h.videos, fun hnot => absurd (he.symm.trans hnot) Bool.true_eq_false.mp⟩
  text _ h he := h.stay he rfl rfl
  openTag h _ := h.of_view rfl rfl
  close h _ := h.of_view rfl rfl
  flush h := h.of_view (Progress.view_flush _) (Progress.ended_flush _)
  clip h he _ ht := h.clip he ht _
  enter h he _ _ ht := h.enter hd he ht _
  leave _ h _ _ := h.of_view rfl rfl

/-! ## 5. The frames of a plan -/

/-- **Frames follow the document.**  A plan falls into parts, and the frame of a section shows what is
seen at each of the places that it comes from.  That pages are counted in words does not show: only the
decks themselves have to be counted in 32 bits. -/
theorem shown_eq_sightAt [VoiceRegistry ρ] (s : Scene) (c : Config) (root : Element) (registry : ρ)
    (hd : s.declarations.Counted) :
    ∃ parts, (traverse s c root registry).plan.pruneChapters.HasParts s root parts ∧
      ∀ part ∈ parts, ∀ frame, part.sec.frame? = some frame → ∀ place ∈ part.places,
        (traverse s c root registry).plan.pruneChapters.shown? frame =
          some (sightAt s place.before).shown := by
  obtain ⟨parts, hparts, hrecorded⟩ :=
    exists_parts (kept_follows hd) c root registry (Progress.Follows.start s c root.tag registry)
  refine ⟨parts, hparts, fun part hpart frame hframe place hplace => ?_⟩
  obtain ⟨q, hq, hrecord, -⟩ := hrecorded part hpart place hplace
  rw [hrecord frame hframe]
  exact hq.keeps _ _ (hq.here.sees hq.running).shown

/-- Numbers beyond all words lead to the ends of the deck, and a deck that is left shows the same page
when it is named again. -/
theorem shown_eq_sightAt_far_off_the_decks :
    let main : Deck := ⟨"main", "main.pdf", Path.ofString "main.pdf", 3, .contain⟩
    let other : Deck := ⟨"other", "other.pdf", Path.ofString "other.pdf", 9, .cover⟩
    let s : Scene :=
      ⟨{ Declarations.empty with
          decks := ((∅ : Table Deck).insert "main" main).insert "other" other
          activeDeck := "main" }, Path.ofString "/", fun _ => true, true⟩
    let root : Element := ⟨⟨"speak", []⟩, [.text "One.",
      .element ⟨"slide", [("page", "+100000000000000000000000000000")]⟩ [], .text "Two.",
      .element ⟨"slide", [("deck", "other"), ("page", "100000000000000000000000000000")]⟩ [],
      .text "Three.", .element ⟨"slide", [("page", "-100000000000000000000000000000")]⟩ [],
      .text "Four.", .element ⟨"slide", [("deck", "main")]⟩ [], .text "Five."]⟩
    let registry : String → RegistryAnswer := fun _ => .ok none
    let plan := (traverse s .standard root registry).plan.pruneChapters
    s.declarations.Counted ∧
      (∃ parts, plan.HasParts s root parts ∧ ∀ part ∈ parts, ∀ frame, part.sec.frame? = some frame →
        ∀ place ∈ part.places, plan.shown? frame = some (sightAt s place.before).shown) ∧
      plan.sections.map Section.frame? =
        [some (.slide "main" 1 .contain), some (.slide "main" 3 .contain),
          some (.slide "other" 9 .cover), some (.slide "other" 1 .cover),
          some (.slide "main" 3 .contain)] := by
  intro main other s root registry plan
  have hd : s.declarations.Counted := by
    intro id deck h
    have hget : s.declarations.deck? id =
        if id = "other" then some other else if id = "main" then some main else none := by
      simp only [s, Declarations.deck?, Table.get?_insert, Table.get?_emptyCollection]
    rw [hget] at h
    split at h
    · cases h
      decide
    split at h
    · cases h
      decide
    · cases h
  exact ⟨hd, shown_eq_sightAt s .standard root registry hd, by decide +kernel⟩

end LecturePlan

import LecturePlan.Proofs.Compile.Invariant
import LecturePlan.Proofs.Compile.Steps
import LecturePlan.Proofs.Plan.Pool
/-!
# References of a plan

Sections and frames name decks, pages and media.  A frame outlives the section that it was first seen
in: it stays over voices and other decks, and over the start mark, which throws all sections away.
This module proves that whatever a plan refers to is there: every page in a declared deck, every
picture and every variant of a file in the pools of the same plan.

The invariant is `Progress.Sound`.  It speaks of the frame in force and of all sections at once, and it
carries over because pools only grow and no tag takes anything out of them (`Plan.Grows`).
-/

namespace LecturePlan

open LecturePlan.Markup

/-! ## 1. What it is to resolve -/

/-- What a frame shows is there. -/
def Frame.Resolves (d : Declarations) (p : Plan) : Frame → Prop
  | .slide id page _ => ∃ deck, d.deck? id = some deck ∧ 1 ≤ page ∧ page ≤ deck.pageCount
  | .image id _ => id < p.images.length
  | .video id key => HasVariant p.videos id key

/-- What a section plays, and what is seen meanwhile, is there. -/
def SectionKind.Resolves (d : Declarations) (p : Plan) : SectionKind → Prop
  | .speech frame _ _ => frame.Resolves d p
  | .video id key _ => HasVariant p.videos id key
  | .audio id key _ frame => HasVariant p.audios id key ∧ frame.Resolves d p

/-- The pools of one plan have what those of another have. -/
structure Plan.Grows (p q : Plan) : Prop where
  images : p.images.length ≤ q.images.length
  videos : ∀ id key, HasVariant p.videos id key → HasVariant q.videos id key
  audios : ∀ id key, HasVariant p.audios id key → HasVariant q.audios id key

theorem Frame.Resolves.mono {d : Declarations} {p q : Plan} {frame : Frame}
    (h : frame.Resolves d p) (hpq : p.Grows q) : frame.Resolves d q := by
  cases frame with
  | slide id page fit => exact h
  | image id fit => exact Nat.lt_of_lt_of_le h hpq.images
  | video id key => exact hpq.videos id key h

theorem SectionKind.Resolves.mono {d : Declarations} {p q : Plan} {kind : SectionKind}
    (h : kind.Resolves d p) (hpq : p.Grows q) : kind.Resolves d q := by
  cases kind with
  | speech frame voice content => exact Frame.Resolves.mono h hpq
  | video id key playback => exact hpq.videos id key h
  | audio id key playback frame => exact ⟨hpq.audios id key h.1, h.2.mono hpq⟩

/-- **A plan refers to what is there.**  Its pools are in order, and the walk never missed a deck that
it had found before. -/
structure Plan.Sound (d : Declarations) (p : Plan) : Prop where
  sections : ∀ sec ∈ p.sections, sec.kind.Resolves d p
  images : Seated ImageResource.id p.images
  videos : Seated Resource.id p.videos
  audios : Seated Resource.id p.audios
  found : ∀ w ∈ p.warnings, ∀ id, w.problem ≠ .slideDeckUndeclared id

/-- A plan may be given larger pools that are in order. -/
theorem Plan.Sound.grow {d : Declarations} {p q : Plan} (h : p.Sound d) (hpq : p.Grows q)
    (hsections : q.sections = p.sections) (hwarnings : q.warnings = p.warnings)
    (himages : Seated ImageResource.id q.images) (hvideos : Seated Resource.id q.videos)
    (haudios : Seated Resource.id q.audios) : q.Sound d where
  sections sec hsec := (h.sections sec (hsections ▸ hsec)).mono hpq
  images := himages
  videos := hvideos
  audios := haudios
  found := hwarnings ▸ h.found

/-- So does a state, with the frame in force; and the deck in force is declared. -/
structure Progress.Sound {ρ : Type} (d : Declarations) (p : Progress ρ) : Prop where
  plan : p.plan.Sound d
  frame : p.frame.Resolves d p.plan
  deck : (d.deck? p.slideDeck).isSome = true

/-- The decks can be shown: there is an active one, and none is without pages. -/
structure Declarations.Showable (d : Declarations) : Prop where
  active : (d.deck? d.activeDeck).isSome = true
  pages : ∀ id deck, d.deck? id = some deck → 1 ≤ deck.pageCount

/-! ## 2. What the tags do to references -/

namespace Progress.Sound

variable {ρ : Type} {d : Declarations} {p : Progress ρ}

theorem start {s : Scene} (hd : s.declarations.Showable) (c : Config) (root : Tag) (registry : ρ) :
    (Progress.start s c root registry).Sound s.declarations := by
  obtain ⟨deck, hdeck⟩ := Option.isSome_iff_exists.mp hd.active
  refine ⟨⟨?_, .nil, .nil, .nil, ?_⟩, ?_, hd.active⟩
  · exact fun sec hsec => absurd hsec List.not_mem_nil
  · exact fun w hw => absurd hw List.not_mem_nil
  · exact ⟨deck, hdeck, Nat.le_refl 1, hd.pages _ deck hdeck⟩

theorem addWarnings (h : p.Sound d) {ws : List Warning}
    (hws : ∀ w ∈ ws, ∀ id, w.problem ≠ .slideDeckUndeclared id) : (p.addWarnings ws).Sound d where
  plan := { h.plan with found := fun w hw => (List.mem_append.mp hw).elim (h.plan.found w) (hws w) }
  frame := h.frame
  deck := h.deck

theorem dropped {t : Tag} {q : Progress ρ} (h : p.Sound d) (hq : Dropped t p q) : q.Sound d := by
  obtain ⟨ws, -, hws, rfl⟩ := hq
  exact h.addWarnings fun w hw => (hws w hw).2

/-- A section that resolves may be added. -/
theorem addSection (h : p.Sound d) {kind : SectionKind} (hkind : kind.Resolves d p.plan) :
    (p.addSection kind).Sound d where
  plan :=
    { h.plan with
      sections := fun sec hsec => by
        rcases List.mem_append.mp hsec with hsec | hsec
        · exact h.plan.sections sec hsec
        · rw [List.mem_singleton.mp hsec]
          exact hkind }
  frame := h.frame
  deck := h.deck

/-- What is spoken is seen over the frame in force. -/
theorem flush (h : p.Sound d) : p.flush.Sound d := by
  rcases flush_cases p with ⟨-, hf⟩ | ⟨-, -, hf⟩
  · rw [hf]
    exact h
  · rw [hf]
    have hadd : (p.addSection (.speech p.frame p.voice p.content.render)).Sound d :=
      h.addSection h.frame
    exact ⟨hadd.plan, hadd.frame, hadd.deck⟩

/-- The start mark takes sections away and leaves the pools. -/
theorem restart (h : p.Sound d) : p.restart.Sound d where
  plan := { h.plan with sections := fun _ hsec => absurd hsec List.not_mem_nil }
  frame := h.frame
  deck := h.deck

theorem setMark (h : p.Sound d) (name : String) (title : Option String) :
    (p.setMark name title).Sound d :=
  ⟨⟨h.plan.sections, h.plan.images, h.plan.videos, h.plan.audios, h.plan.found⟩, h.frame, h.deck⟩

theorem mark {s : Scene} (h : p.Sound d) (t : Tag) : (p.mark s t).Sound d := by
  rcases mark_cases s t p with ⟨hdrop, -⟩ | ⟨name, -, -, heq⟩
  · exact h.dropped hdrop
  · rw [heq]
    unfold acceptMark
    dsimp only
    have hset : Progress.Sound d (Progress.setMark (if s.declarations.startMark = some name then
        p.restart.tell [.startReached name] else p) name (t.nonEmptyAttr? "chapter")) := by
      apply setMark
      split
      · exact ⟨h.restart.plan, h.frame, h.deck⟩
      · exact h
    split
    · exact ⟨hset.plan, hset.frame, hset.deck⟩
    · exact hset

theorem voiceTag [VoiceRegistry ρ] (h : p.Sound d) (t : Tag) : (p.voiceTag t).Sound d := by
  obtain ⟨registry, hdrop | ⟨name, -, -, heq⟩⟩ := voiceTag_cases t p
  · have hasked : Progress.Sound d { p with registry } := ⟨h.plan, h.frame, h.deck⟩
    exact hasked.dropped hdrop
  · rw [heq]
    exact ⟨h.plan, h.frame, h.deck⟩

theorem readFit (h : p.Sound d) (t : Tag) : (p.addWarnings (Progress.readFit t).2).Sound d :=
  h.addWarnings fun w hw => (reports_readFit t w hw).2

/-- An image is in the pool before it is shown. -/
theorem image {s : Scene} (h : p.Sound d) (t : Tag) : (p.image s t).Sound d := by
  rcases image_cases s t p with ⟨-, hdrop⟩ | ⟨path, -, heq⟩
  · exact h.dropped hdrop
  · rw [heq]
    have hfit := h.readFit t
    refine ⟨hfit.plan.grow ?_ rfl rfl ?_ hfit.plan.videos hfit.plan.audios, ?_, h.deck⟩
    · exact ⟨length_le_internImage _ _, fun _ _ => id, fun _ _ => id⟩
    · exact seated_internImage h.plan.images _
    · exact internImage_lt h.plan.images _

/-- A slide tag shows a page of a declared deck, and misses none. -/
theorem slide {s : Scene} (h : p.Sound s.declarations) (hd : s.declarations.Showable) (t : Tag) :
    (p.slide s t).Sound s.declarations := by
  rcases slide_cases s t p with ⟨problem, htarget, heq⟩ | ⟨id, deck, request, htarget, heq⟩
  · rw [heq]
    exact h.dropped (dropped_warn p (slideTarget_ne_undeclared h.deck htarget))
  · rw [heq]
    have hdeck : s.declarations.deck? id = some deck := deck?_of_slideTarget htarget
    have hpage := request.resolve_mem ((p.pages.get? id).getD 1) (hd.pages id deck hdeck)
    exact ⟨(h.readFit t).plan, ⟨deck, hdeck, hpage⟩, by rw [showPage, hdeck]; rfl⟩

/-- A video is in the pool, in the variant that is asked for, before it is played or shown. -/
theorem addVideo {s : Scene} (h : p.Sound d) (t : Tag) (path : Path)
    (window : ClipBound × ClipBound) : (p.addVideo s t path window).Sound d := by
  rw [addVideo_eq]
  dsimp only
  have hreports : ∀ w ∈ (Progress.readFit t).2 ++ (readPlayback t).2 ++ (keepsFrame s t).2,
      ∀ id, w.problem ≠ .slideDeckUndeclared id := fun w hw =>
    (((reports_readFit t).append (reports_readPlayback t)).append (reports_keepsFrame s t) w hw).2
  have hwarned := h.addWarnings hreports
  have hvariant := hasVariant_internVariant h.plan.videos path (videoVariant t window)
  have hgrows : ∀ id key, HasVariant p.plan.videos id key →
      HasVariant (internVariant path (videoVariant t window) p.plan.videos).2 id key :=
    fun _ _ hv => hv.internVariant path _
  apply addSection
  · refine ⟨hwarned.plan.grow ?_ rfl rfl hwarned.plan.images ?_ hwarned.plan.audios, ?_, h.deck⟩
    · exact ⟨Nat.le_refl _, hgrows, fun _ _ => id⟩
    · exact seated_internVariant h.plan.videos path _
    · dsimp only
      split
      · exact hvariant
      · exact h.frame.mono ⟨Nat.le_refl _, hgrows, fun _ _ => id⟩
  · exact hvariant

/-- So is an audio clip, which plays over the frame in force. -/
theorem addAudio (h : p.Sound d) (t : Tag) (path : Path) (window : ClipBound × ClipBound) :
    (p.addAudio t path window).Sound d := by
  rw [addAudio_eq]
  dsimp only
  have hwarned := h.addWarnings fun w hw => (reports_readPlayback t w hw).2
  have hvariant := hasVariant_internVariant h.plan.audios path (audioVariant window)
  have hgrows : ∀ id key, HasVariant p.plan.audios id key →
      HasVariant (internVariant path (audioVariant window) p.plan.audios).2 id key :=
    fun _ _ hv => hv.internVariant path _
  apply addSection
  · refine ⟨hwarned.plan.grow ?_ rfl rfl hwarned.plan.images hwarned.plan.videos ?_, ?_, h.deck⟩
    · exact ⟨Nat.le_refl _, fun _ _ => id, hgrows⟩
    · exact seated_internVariant h.plan.audios path _
    · exact h.frame.mono ⟨Nat.le_refl _, fun _ _ => id, hgrows⟩
  · exact ⟨hvariant, h.frame.mono ⟨Nat.le_refl _, fun _ _ => id, hgrows⟩⟩

theorem clip {s : Scene} (h : p.Sound d) (t : Tag) : (p.clip s t).Sound d := by
  rcases clip_cases s t p with ⟨-, hdrop⟩ | ⟨path, window, -, heq⟩
  · exact h.dropped hdrop
  · rw [heq]
    have hwarned := h.addWarnings fun w hw => (reports_clipWindow t w hw).2
    dsimp only
    split
    · exact hwarned.addVideo t path window
    · exact hwarned.addAudio t path window

theorem enter [VoiceRegistry ρ] {s : Scene} (h : p.Sound s.declarations)
    (hd : s.declarations.Showable) (t : Tag) : (p.enter s t).Sound s.declarations := by
  exact enter_cases s t p (fun _ => h.mark t) (fun _ => h.voiceTag t) (fun _ => h.image t)
    (fun _ => h.slide hd t) fun _ => h

end Progress.Sound

/-! ## 3. The walk -/

variable {ρ : Type} [VoiceRegistry ρ]

/-- The walk refers to what is there. -/
theorem kept_sound {s : Scene} (hd : s.declarations.Showable) :
    Kept s fun _ _ (p : Progress ρ) => p.Sound s.declarations where
  pass _ h _ := h
  text _ h _ := ⟨h.plan, h.frame, h.deck⟩
  openTag h _ := ⟨h.plan, h.frame, h.deck⟩
  close h _ := ⟨h.plan, h.frame, h.deck⟩
  flush h := h.flush
  clip h _ _ _ := h.clip _
  enter h _ _ _ _ := h.enter hd _
  leave _ h _ _ := ⟨h.plan, h.frame, h.deck⟩

/-- **Every reference of a plan resolves** in the same plan, if the decks can be shown; and the report
that the deck in force is not declared is never made. -/
theorem sound_traverse (s : Scene) (c : Config) (root : Element) (registry : ρ)
    (hd : s.declarations.Showable) :
    (traverse s c root registry).plan.pruneChapters.Sound s.declarations := by
  have h := (kept_sound hd).traverse c root registry (Progress.Sound.start hd c root.tag registry)
  exact ⟨h.plan.sections, h.plan.images, h.plan.videos, h.plan.audios, h.plan.found⟩

/-- A video that the start mark dropped as a section stays in its pool, and its last frame is
shown. -/
theorem sound_traverse_behind_start_mark :
    let deck : Deck := ⟨"main", "main.pdf", Path.ofString "main.pdf", 2, .contain⟩
    let s : Scene :=
      ⟨{ Declarations.empty with
          decks := (∅ : Table Deck).insert "main" deck
          activeDeck := "main"
          startMark := some "go" }, Path.ofString "/", fun _ => true, true⟩
    let root : Element := ⟨⟨"speak", []⟩, [.element ⟨"video", [("src", "a.mp4")]⟩ [],
      .element ⟨"mark", [("name", "go")]⟩ [], .text "Hello."]⟩
    let registry : String → RegistryAnswer := fun _ => .ok none
    let plan := (traverse s .standard root registry).plan.pruneChapters
    s.declarations.Showable ∧ plan.Sound s.declarations ∧
      plan.sections.map Section.frame? = [some (.video 0 "START-END-contain")] := by
  intro deck s root registry plan
  have hd : s.declarations.Showable := by
    refine ⟨by decide +kernel, fun id deck' h => ?_⟩
    have hget : s.declarations.deck? id = if id = "main" then some deck else none :=
      Table.get?_insert _ _ _ _
    rw [hget] at h
    split at h
    · cases h
      decide
    · cases h
  exact ⟨hd, sound_traverse s .standard root registry hd, by decide +kernel⟩

end LecturePlan

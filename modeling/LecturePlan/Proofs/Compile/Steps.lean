import LecturePlan.Compile.Walk
/-!
# What a splitting tag can do

Each handler of a splitting tag checks several attributes in turn.  Whatever it checks, there are two
endings: the tag is dropped, that is, reported and nothing else (`Dropped`), or it is accepted and
changes the state in one way.  This module says so for every handler, with what an accepted tag has
passed, so that what follows splits cases here and never opens a handler.
-/

namespace LecturePlan

open LecturePlan.Markup

/-! ## 1. Files and reports -/

/-- The file that a tag names, if it is there. -/
def Scene.file? (s : Scene) (t : Tag) : Option Path :=
  match t.nonEmptyAttr? "src" with
  | none => none
  | some source =>
    let path := (Path.ofString source).resolve s.directory
    if s.isFile path then some path else none

/-- The file and the trim window of a clip tag that can be used. -/
def Scene.clip? (s : Scene) (t : Tag) : Option (Path × (ClipBound × ClipBound)) :=
  match s.file? t, (clipWindow t).1 with
  | some path, .ok window => some (path, window)
  | _, _ => none

/-- Warnings that name the tag they are about.  That the deck in force is not declared is none of
them: only `slideTarget` can find that. -/
def Reports (t : Tag) (ws : List Warning) : Prop :=
  ∀ w ∈ ws, w.tag = t.name ∧ ∀ id, w.problem ≠ .slideDeckUndeclared id

theorem Reports.nil (t : Tag) : Reports t [] := fun _ hw => absurd hw List.not_mem_nil

theorem Reports.singleton {t : Tag} {problem : Problem}
    (h : ∀ id, problem ≠ .slideDeckUndeclared id) : Reports t [⟨t.name, problem⟩] := by
  intro w hw
  rw [List.mem_singleton.mp hw]
  exact ⟨rfl, h⟩

theorem Reports.append {t : Tag} {ws vs : List Warning} (hw : Reports t ws) (hv : Reports t vs) :
    Reports t (ws ++ vs) :=
  fun w hm => (List.mem_append.mp hm).elim (hw w) (hv w)

namespace Progress

theorem reports_readFit (t : Tag) : Reports t (readFit t).2 := by
  unfold readFit
  split
  · exact .nil t
  · split
    · exact .nil t
    · exact .singleton (by simp)

theorem reports_keepsFrame (s : Scene) (t : Tag) : Reports t (keepsFrame s t).2 := by
  unfold keepsFrame
  split
  · exact .nil t
  · split
    · exact .nil t
    · split
      · exact .nil t
      · exact .singleton (by simp)

theorem reports_clipPoint (t : Tag) (key : String) : Reports t (clipPoint t key).2 := by
  unfold clipPoint
  split
  · exact .nil t
  · split
    · exact .nil t
    · exact .singleton (by simp)

theorem reports_clipWindow (t : Tag) : Reports t (clipWindow t).2 :=
  (reports_clipPoint t "clipBegin").append (reports_clipPoint t "clipEnd")

theorem reports_readAttr {α : Type} (t : Tag) (key expected : String)
    (read? : List Char → Option α) : Reports t (readAttr t key expected read?).2 := by
  unfold readAttr
  split
  · exact .nil t
  · split
    · exact .nil t
    · exact .singleton (by simp)

theorem reports_readPlayback (t : Tag) : Reports t (readPlayback t).2 :=
  ((reports_readAttr t _ _ _).append (reports_readAttr t _ _ _)).append (reports_readAttr t _ _ _)

variable {ρ : Type}

theorem addWarnings_addWarnings (p : Progress ρ) (ws vs : List Warning) :
    (p.addWarnings ws).addWarnings vs = p.addWarnings (ws ++ vs) := by
  simp [addWarnings, tell]

/-- A tag is dropped: it is reported, and all else stays. -/
def Dropped (t : Tag) (p q : Progress ρ) : Prop :=
  ∃ ws, ws ≠ [] ∧ Reports t ws ∧ q = p.addWarnings ws

theorem dropped_warn (p : Progress ρ) {t : Tag} {problem : Problem}
    (h : ∀ id, problem ≠ .slideDeckUndeclared id) : Dropped t p (p.warn t problem) :=
  ⟨[⟨t.name, problem⟩], List.cons_ne_nil _ _, .singleton h, rfl⟩

/-! ## 2. Marks, voices and images -/

/-- What a mark with a new name does. -/
def acceptMark (s : Scene) (name : String) (title : Option String) (p : Progress ρ) : Progress ρ :=
  let p := if s.declarations.startMark = some name then p.restart.tell [.startReached name] else p
  let p := p.setMark name title
  if s.declarations.endMark = some name then { p.tell [.endReached name] with ended := true } else p

theorem mark_cases (s : Scene) (t : Tag) (p : Progress ρ) :
    (Dropped t p (p.mark s t) ∧
        ∀ name, t.nonEmptyAttr? "name" = some name → p.plan.marks.contains name = true) ∨
      ∃ name, t.nonEmptyAttr? "name" = some name ∧ p.plan.marks.contains name = false ∧
        p.mark s t = p.acceptMark s name (t.nonEmptyAttr? "chapter") := by
  unfold mark
  split
  · next h => exact .inl ⟨dropped_warn p (by simp), by simp [h]⟩
  · next name h =>
    split
    · next hm =>
      refine .inl ⟨dropped_warn p (by simp), fun name' h' => ?_⟩
      rw [h] at h'
      exact Option.some.inj h' ▸ hm
    · next hm => exact .inr ⟨name, h, Bool.eq_false_iff.mpr hm, rfl⟩

/-- Asking for a voice may change the registry; the voice changes only to one that exists. -/
theorem voiceTag_cases [VoiceRegistry ρ] (t : Tag) (p : Progress ρ) :
    ∃ registry, Dropped t { p with registry } (p.voiceTag t) ∨
      ∃ name, t.nonEmptyAttr? "name" = some name ∧
        (VoiceRegistry.hasVoice p.registry name).1 = .ok true ∧
        p.voiceTag t = { p with registry, voice := name } := by
  unfold voiceTag
  split
  · exact ⟨p.registry, .inl (dropped_warn p (by simp))⟩
  · next name h =>
    refine ⟨(VoiceRegistry.hasVoice p.registry name).2, ?_⟩
    dsimp only
    split
    · next hv => exact .inr ⟨name, h, hv, rfl⟩
    · exact .inl (dropped_warn _ (by simp))
    · exact .inl (dropped_warn _ (by simp))

/-- An image tag is dropped if its file is not there, and else shows it. -/
theorem image_cases (s : Scene) (t : Tag) (p : Progress ρ) :
    (s.file? t = none ∧ Dropped t p (p.image s t)) ∨
      ∃ path, s.file? t = some path ∧
        p.image s t =
          let found := internImage path p.plan.images
          let q := p.addWarnings (readFit t).2
          { q with
            plan := { q.plan with images := found.2 }
            frame := .image found.1 ((readFit t).1.getD .contain) } := by
  unfold Scene.file? image
  cases t.nonEmptyAttr? "src" with
  | none => exact .inl ⟨rfl, dropped_warn p (by simp)⟩
  | some source =>
    dsimp only
    cases s.isFile ((Path.ofString source).resolve s.directory) with
    | false => exact .inl ⟨rfl, dropped_warn p (by simp)⟩
    | true => exact .inr ⟨_, rfl, rfl⟩

/-! ## 3. Slides -/

/-- What a slide tag leads to in a deck. -/
def targetIn (s : Scene) (t : Tag) (id : String) : Except Problem (String × Deck × PageRequest) :=
  match pageRequest t with
  | .error problem => .error problem
  | .ok request =>
    match s.declarations.deck? id with
    | some deck => .ok (id, deck, request)
    | none => .error (.slideDeckUndeclared id)

/-- A slide tag names a deck that is not declared, or leads into one that it names and that is
declared, or into the deck in force. -/
theorem slideTarget_cases (s : Scene) (t : Tag) (p : Progress ρ) :
    (∃ id, t.nonEmptyAttr? "deck" = some id ∧ s.declarations.deck? id = none ∧
        slideTarget s t p = .error (.deckUndeclared id)) ∨
      ∃ id, (t.nonEmptyAttr? "deck" = some id ∧ (s.declarations.deck? id).isSome = true ∨
          t.nonEmptyAttr? "deck" = none ∧ id = p.slideDeck) ∧
        slideTarget s t p = targetIn s t id := by
  cases h : t.nonEmptyAttr? "deck" with
  | none =>
    refine .inr ⟨p.slideDeck, .inr ⟨rfl, rfl⟩, ?_⟩
    simp only [slideTarget, h, targetIn]
    cases pageRequest t <;> rfl
  | some id =>
    cases hd : s.declarations.deck? id with
    | none =>
      refine .inl ⟨id, rfl, hd, ?_⟩
      simp only [slideTarget, h, hd, Option.isNone_none, if_true]
      rfl
    | some deck =>
      refine .inr ⟨id, .inl ⟨rfl, by simp [hd]⟩, ?_⟩
      simp only [slideTarget, h, hd, Option.isNone_some, Bool.false_eq_true, if_false, targetIn]
      cases pageRequest t with
      | error => rfl
      | ok => simp only [bind, Except.bind, hd]

/-- A slide tag that leads somewhere leads to a declared deck. -/
theorem deck?_of_slideTarget {s : Scene} {t : Tag} {p : Progress ρ} {id : String} {deck : Deck}
    {request : PageRequest} (h : slideTarget s t p = .ok (id, deck, request)) :
    s.declarations.deck? id = some deck := by
  rcases slideTarget_cases s t p with ⟨id', -, -, h'⟩ | ⟨id', -, h'⟩ <;> rw [h'] at h
  · cases h
  · unfold targetIn at h
    split at h
    · cases h
    · split at h
      · next hd =>
        cases h
        exact hd
      · cases h

theorem pageRequest_ne_undeclared {t : Tag} {problem : Problem}
    (h : pageRequest t = .error problem) (id : String) : problem ≠ .slideDeckUndeclared id := by
  rintro rfl
  unfold pageRequest at h
  split at h
  · split at h <;> cases h
  · split at h <;> cases h

/-- If the deck in force is declared, a slide tag never misses a deck that it has already found. -/
theorem slideTarget_ne_undeclared {s : Scene} {t : Tag} {p : Progress ρ}
    (hdeck : (s.declarations.deck? p.slideDeck).isSome = true) {problem : Problem}
    (h : slideTarget s t p = .error problem) (id : String) : problem ≠ .slideDeckUndeclared id := by
  rcases slideTarget_cases s t p with ⟨id', -, -, h'⟩ | ⟨id', hid, h'⟩ <;> rw [h'] at h
  · cases h
    exact Problem.noConfusion
  · have hfound : (s.declarations.deck? id').isSome = true := by
      rcases hid with ⟨-, hid⟩ | ⟨-, rfl⟩
      · exact hid
      · exact hdeck
    unfold targetIn at h
    split at h
    · next problem' hp =>
      cases h
      exact pageRequest_ne_undeclared hp id
    · split at h
      · cases h
      · next hnone =>
        rw [hnone] at hfound
        cases hfound

theorem slide_cases (s : Scene) (t : Tag) (p : Progress ρ) :
    (∃ problem, slideTarget s t p = .error problem ∧ p.slide s t = p.warn t problem) ∨
      ∃ id deck request, slideTarget s t p = .ok (id, deck, request) ∧
        p.slide s t = (p.addWarnings (readFit t).2).showPage id
          (request.resolve ((p.pages.get? id).getD 1) deck.pageCount)
          ((readFit t).1.getD deck.fit) := by
  unfold slide
  split
  · next problem h => exact .inl ⟨problem, h, rfl⟩
  · next id deck request h => exact .inr ⟨id, deck, request, h, rfl⟩

/-! ## 4. Clips -/

/-- The variant that a video tag asks for. -/
def videoVariant (t : Tag) (window : ClipBound × ClipBound) : Variant :=
  ⟨window.1, window.2, some ((readFit t).1.getD .contain)⟩

/-- The variant that an audio tag asks for. -/
def audioVariant (window : ClipBound × ClipBound) : Variant := ⟨window.1, window.2, none⟩

/-- A video becomes a section, and the frame behind it if its last frame stays. -/
theorem addVideo_eq (s : Scene) (t : Tag) (path : Path) (window : ClipBound × ClipBound)
    (p : Progress ρ) :
    p.addVideo s t path window =
      let found := internVariant path (videoVariant t window) p.plan.videos
      let q := p.addWarnings ((readFit t).2 ++ (readPlayback t).2 ++ (keepsFrame s t).2)
      let key := (videoVariant t window).key
      Progress.addSection { q with
        plan := { q.plan with videos := found.2 }
        frame := if (keepsFrame s t).1 then .video found.1 key else p.frame }
        (.video found.1 key (readPlayback t).1) := by
  unfold addVideo
  dsimp only
  split <;> rfl

/-- An audio clip becomes a section over the frame of the moment. -/
theorem addAudio_eq (t : Tag) (path : Path) (window : ClipBound × ClipBound) (p : Progress ρ) :
    p.addAudio t path window =
      let found := internVariant path (audioVariant window) p.plan.audios
      let q := p.addWarnings (readPlayback t).2
      Progress.addSection { q with plan := { q.plan with audios := found.2 } }
        (.audio found.1 (audioVariant window).key (readPlayback t).1 p.frame) := rfl

/-- A clip that cannot be used is dropped, and another one is taken. -/
theorem clip_cases (s : Scene) (t : Tag) (p : Progress ρ) :
    (s.clip? t = none ∧ Dropped t p (p.clip s t)) ∨
      ∃ path window, s.clip? t = some (path, window) ∧
        p.clip s t =
          let q := p.addWarnings (clipWindow t).2
          if t.name = "video" then q.addVideo s t path window else q.addAudio t path window := by
  unfold Scene.clip? Scene.file? clip
  cases t.nonEmptyAttr? "src" with
  | none => exact .inl ⟨rfl, dropped_warn p (by simp)⟩
  | some source =>
    dsimp only
    cases s.isFile ((Path.ofString source).resolve s.directory) with
    | false => exact .inl ⟨rfl, dropped_warn p (by simp)⟩
    | true =>
      cases (clipWindow t).1 with
      | error bounds =>
        refine .inl ⟨rfl, _, ?_, ?_, addWarnings_addWarnings p _ _⟩
        · simp
        · exact (reports_clipWindow t).append (.singleton (by simp))
      | ok window => exact .inr ⟨_, window, rfl, rfl⟩

/-! ## 5. Tags that are entered -/

/-- What a tag that is entered does, by its name. -/
@[elab_as_elim] theorem enter_cases [VoiceRegistry ρ] {motive : Progress ρ → Prop} (s : Scene) (t : Tag)
    (p : Progress ρ) (mark : t.name = "mark" → motive (p.mark s t))
    (voice : t.name = "voice" → motive (p.voiceTag t))
    (image : t.name = "image" → motive (p.image s t))
    (slide : t.name = "slide" → motive (p.slide s t))
    (other : t.name ∉ ["mark", "voice", "image", "slide"] → motive p) : motive (p.enter s t) := by
  unfold enter
  split
  · next hmark => exact mark hmark
  · next hmark =>
    split
    · next hvoice => exact voice hvoice
    · next hvoice =>
      split
      · next himage => exact image himage
      · next himage =>
        split
        · next hslide => exact slide hslide
        · next hslide => exact other (by simp [hmark, hvoice, himage, hslide])

/-! ## 6. Content -/

theorem content_of_dropped {t : Tag} {p q : Progress ρ} (h : Dropped t p q) :
    q.content = p.content := by
  obtain ⟨ws, -, -, rfl⟩ := h
  rfl

/-- A tag that is entered leaves what is collected alone, or drops it. -/
theorem content_enter [VoiceRegistry ρ] (s : Scene) (t : Tag) (p : Progress ρ) :
    (p.enter s t).content = p.content ∨ (p.enter s t).content = p.content.reset := by
  refine enter_cases (motive := fun q => q.content = p.content ∨ q.content = p.content.reset) s t p
    (fun _ => ?mark) (fun _ => .inl ?voice) (fun _ => .inl ?image) (fun _ => .inl ?slide)
    fun _ => .inl rfl
  case mark =>
    rcases mark_cases s t p with ⟨h, -⟩ | ⟨name, -, -, h⟩
    · exact .inl (content_of_dropped h)
    · rw [h, acceptMark]
      by_cases hs : s.declarations.startMark = some name <;>
        by_cases he : s.declarations.endMark = some name <;>
        simp [hs, he, setMark, restart, tell]
  case voice =>
    obtain ⟨registry, h | ⟨name, -, -, h⟩⟩ := voiceTag_cases t p
    · rw [content_of_dropped h]
    · rw [h]
  case image =>
    rcases image_cases s t p with ⟨-, h⟩ | ⟨path, -, h⟩
    · exact content_of_dropped h
    · rw [h]
      rfl
  case slide =>
    rcases slide_cases s t p with ⟨problem, -, h⟩ | ⟨id, deck, request, -, h⟩ <;>
    · rw [h]
      rfl

/-- So it adds no text. -/
theorem hasText_enter [VoiceRegistry ρ] (s : Scene) (t : Tag) {p : Progress ρ}
    (h : p.content.hasText = false) : (p.enter s t).content.hasText = false := by
  rcases content_enter s t p with hc | hc <;> rw [hc]
  · exact h
  · exact Content.hasText_reset _

end Progress

end LecturePlan

import LecturePlan.Proofs.Compile.Steps
/-!
# Tags that are refused

A splitting tag that cannot be used is refused.  A handler finds that out only step by step: it looks at
several attributes, goes on after some faults with a warning and stops at others, and enters files into
pools and turns pages on the way.  Were any of this done before the last look, a refused tag would leave a
trace.

`Refused` lists the reasons, each with the problem that is reported, and `TakesEffect` says what can be
seen of a tag that is taken.

* A refused tag adds the one warning of its reason and changes nothing else (`obey_of_refused`).
* A tag that no reason speaks against takes effect (`takesEffect_obey`), so the list is complete.

`obey_refused_or_takesEffect` says both of every tag in every state.  Asking whether a voice exists may
change the registry, even if the answer is no; this is all that a refused tag can do beside its warning.
-/

namespace LecturePlan

open LecturePlan.Markup

variable {ρ : Type}

/-! ## 1. What a tag does -/

namespace Progress

variable [VoiceRegistry ρ]

/-- What a splitting tag does before its children are visited: a clip is taken, and any other tag is
entered. -/
def obey (s : Scene) (t : Tag) (p : Progress ρ) : Progress ρ :=
  if isClip t.name then p.clip s t else p.enter s t

/-- The registry as a tag leaves it.  Only a voice tag with a name asks, and it asks once. -/
def registryBehind (t : Tag) (p : Progress ρ) : ρ :=
  match t.nonEmptyAttr? "name" with
  | some name => if t.name = "voice" then (VoiceRegistry.lookup p.registry name).2 else p.registry
  | none => p.registry

end Progress

/-- The file that a source names. -/
def Scene.locate (s : Scene) (source : String) : Path := (Path.ofString source).resolve s.directory

/-- **A splitting tag is refused** in a state, with the problem that is reported. -/
inductive Refused [VoiceRegistry ρ] (s : Scene) (t : Tag) (p : Progress ρ) : Problem → Prop
  | markUnnamed : t.name = "mark" → t.nonEmptyAttr? "name" = none → Refused s t p .markWithoutName
  | markTaken {name : String} : t.name = "mark" → t.nonEmptyAttr? "name" = some name →
      p.plan.marks.contains name = true → Refused s t p (.markRepeated name)
  | voiceUnnamed : t.name = "voice" → t.nonEmptyAttr? "name" = none → Refused s t p .voiceWithoutName
  | voiceUnknown {name : String} : t.name = "voice" → t.nonEmptyAttr? "name" = some name →
      (VoiceRegistry.lookup p.registry name).1 = .ok none → Refused s t p (.voiceUnknown name)
  | voiceUnanswered {name : String} {e : RegistryError} : t.name = "voice" →
      t.nonEmptyAttr? "name" = some name → (VoiceRegistry.lookup p.registry name).1 = .error e →
        Refused s t p (.voiceNotLookedUp name e)
  | imageUnnamed : t.name = "image" → t.nonEmptyAttr? "src" = none → Refused s t p .imageWithoutSource
  | imageMissing {source : String} : t.name = "image" → t.nonEmptyAttr? "src" = some source →
      s.isFile (s.locate source) = false →
        Refused s t p (.imageMissing source (s.locate source).toString)
  | deckUndeclared {id : String} : t.name = "slide" → t.nonEmptyAttr? "deck" = some id →
      s.declarations.deck? id = none → Refused s t p (.deckUndeclared id)
  | pageUnreadable {value : String} : t.name = "slide" →
      (∀ id, t.nonEmptyAttr? "deck" = some id → (s.declarations.deck? id).isSome = true) →
        t.nonEmptyAttr? "page" = some value → PageRequest.ofString? value = none →
          Refused s t p (.pageInvalid value)
  | pageMissing : t.name = "slide" → t.nonEmptyAttr? "deck" = none →
      t.nonEmptyAttr? "page" = none → Refused s t p .slideWithoutPage
  /-- The deck in force is none: a script whose active deck is not declared. -/
  | deckLost {value : String} {request : PageRequest} : t.name = "slide" →
      t.nonEmptyAttr? "deck" = none → t.nonEmptyAttr? "page" = some value →
        PageRequest.ofString? value = some request → s.declarations.deck? p.slideDeck = none →
          Refused s t p (.slideDeckUndeclared p.slideDeck)
  | clipUnnamed : isClip t.name = true → t.nonEmptyAttr? "src" = none →
      Refused s t p (.clipWithoutSource t.name)
  | clipMissing {source : String} : isClip t.name = true → t.nonEmptyAttr? "src" = some source →
      s.isFile (s.locate source) = false →
        Refused s t p (.clipMissing t.name source (s.locate source).toString)
  | clipEmpty {source : String} {first last : Timestamp} : isClip t.name = true →
      t.nonEmptyAttr? "src" = some source → s.isFile (s.locate source) = true →
        (clipPoint t "clipBegin").1 = some first → (clipPoint t "clipEnd").1 = some last →
          last.total ≤ first.total →
            Refused s t p (.clipEmpty t.name source first.canonical last.canonical)

/-- **A splitting tag takes effect**: what can be seen of it in the state behind it. -/
inductive TakesEffect (s : Scene) (t : Tag) (p q : Progress ρ) : Prop
  | mark {name : String} : t.name = "mark" → t.nonEmptyAttr? "name" = some name →
      q.plan.marks.get? name = some q.nextId → TakesEffect s t p q
  | voice {name : String} : t.name = "voice" → t.nonEmptyAttr? "name" = some name →
      q.voice = name → TakesEffect s t p q
  | image {path : Path} : t.name = "image" → s.file? t = some path →
      q.frame = .image (internImage path p.plan.images).1 ((Progress.readFit t).1.getD .contain) →
        TakesEffect s t p q
  | slide {id : String} {deck : Deck} {request : PageRequest} : t.name = "slide" →
      Progress.slideTarget s t p = .ok (id, deck, request) →
        q.frame = .slide id (request.resolve ((p.pages.get? id).getD 1) deck.pageCount)
          ((Progress.readFit t).1.getD deck.fit) →
        q.slideDeck = id → TakesEffect s t p q
  | clip {kind : SectionKind} : isClip t.name = true → (s.clip? t).isSome = true →
      q.plan.sections = p.plan.sections ++ [⟨p.nextId, kind⟩] → TakesEffect s t p q

/-! ## 2. What the checks find -/

namespace Progress

variable {s : Scene} {t : Tag} {p : Progress ρ}

/-- The file of a tag is missing if the tag names none, or one that is not there. -/
theorem file?_eq_none (h : s.file? t = none) : t.nonEmptyAttr? "src" = none ∨
    ∃ source, t.nonEmptyAttr? "src" = some source ∧ s.isFile (s.locate source) = false := by
  unfold Scene.file? at h
  split at h
  · next hsource => exact .inl hsource
  · next source hsource =>
    refine .inr ⟨source, hsource, ?_⟩
    dsimp only at h
    split at h
    · cases h
    · next hfile => exact Bool.eq_false_iff.mpr hfile

/-- A file that is there has been named. -/
theorem file?_eq_some {path : Path} (h : s.file? t = some path) :
    ∃ source, t.nonEmptyAttr? "src" = some source ∧ s.isFile (s.locate source) = true := by
  unfold Scene.file? at h
  split at h
  · cases h
  · next source hsource =>
    refine ⟨source, hsource, ?_⟩
    dsimp only at h
    split at h
    · next hfile => exact hfile
    · cases h

/-- A bound that can be used is not reported. -/
theorem clipPoint_snd {key : String} {point : Timestamp} (h : (clipPoint t key).1 = some point) :
    (clipPoint t key).2 = [] := by
  unfold clipPoint at h ⊢
  split
  · rfl
  · next value hvalue =>
    rw [hvalue] at h
    dsimp only at h
    split
    · rfl
    · next hparse =>
      rw [hparse] at h
      cases h

/-- A window that ends before it begins is found when both bounds have been read without a fault. -/
theorem clipWindow_of_empty {first last : Timestamp} (hfirst : (clipPoint t "clipBegin").1 = some first)
    (hlast : (clipPoint t "clipEnd").1 = some last) (hle : last.total ≤ first.total) :
    clipWindow t = (.error (first, last), []) := by
  simp [clipWindow, hfirst, hlast, hle, clipPoint_snd hfirst, clipPoint_snd hlast]

/-- Nothing else is wrong with a window. -/
theorem clipWindow_eq_error {first last : Timestamp} (h : (clipWindow t).1 = .error (first, last)) :
    (clipPoint t "clipBegin").1 = some first ∧ (clipPoint t "clipEnd").1 = some last ∧
      last.total ≤ first.total := by
  unfold clipWindow at h
  dsimp only at h
  split at h
  · next b e hb he =>
    split at h
    · next hle =>
      cases h
      exact ⟨hb, he, hle⟩
    · cases h
  · cases h

theorem slide_of_error {problem : Problem} (h : slideTarget s t p = .error problem) :
    p.slide s t = p.warn t problem := by
  rw [slide, h]

theorem slideTarget_of_undeclared {id : String} (hdeck : t.nonEmptyAttr? "deck" = some id)
    (hnone : s.declarations.deck? id = none) : slideTarget s t p = .error (.deckUndeclared id) := by
  simp only [slideTarget, hdeck, hnone, Option.isNone_none, if_true]
  rfl

/-- If a deck that the tag names is declared, the page is read next. -/
theorem slideTarget_of_pageRequest
    (hdecks : ∀ id, t.nonEmptyAttr? "deck" = some id → (s.declarations.deck? id).isSome = true)
    {problem : Problem} (hpage : pageRequest t = .error problem) :
    slideTarget s t p = .error problem := by
  rcases slideTarget_cases s t p with ⟨id, hid, hnone, -⟩ | ⟨id, -, htarget⟩
  · have hsome := hdecks id hid
    rw [hnone] at hsome
    cases hsome
  · rw [htarget, targetIn, hpage]

/-- A tag that names no deck and a page leads into the deck in force. -/
theorem slideTarget_of_lost {request : PageRequest} (hdeck : t.nonEmptyAttr? "deck" = none)
    (hpage : pageRequest t = .ok request) (hnone : s.declarations.deck? p.slideDeck = none) :
    slideTarget s t p = .error (.slideDeckUndeclared p.slideDeck) := by
  rcases slideTarget_cases s t p with ⟨id, hid, -, -⟩ | ⟨id, ⟨hid, -⟩ | ⟨-, rfl⟩, htarget⟩
  · rw [hdeck] at hid
    cases hid
  · rw [hdeck] at hid
    cases hid
  · rw [htarget, targetIn, hpage]
    dsimp only
    rw [hnone]

/-- What is wrong with a page. -/
theorem pageRequest_eq_error {problem : Problem} (h : pageRequest t = .error problem) :
    (∃ value, t.nonEmptyAttr? "page" = some value ∧ PageRequest.ofString? value = none ∧
        problem = .pageInvalid value) ∨
      t.nonEmptyAttr? "page" = none ∧ t.nonEmptyAttr? "deck" = none ∧
        problem = .slideWithoutPage := by
  unfold pageRequest at h
  split at h
  · next value hpage =>
    split at h
    · cases h
    · next hvalue =>
      cases h
      exact .inl ⟨value, hpage, hvalue, rfl⟩
  · next hpage =>
    split at h
    · cases h
    · next hdeck =>
      cases h
      exact .inr ⟨hpage, by simpa using hdeck, rfl⟩

/-- Without a deck a page is asked for only by a page that can be read. -/
theorem pageRequest_eq_ok {request : PageRequest} (h : pageRequest t = .ok request)
    (hdeck : t.nonEmptyAttr? "deck" = none) :
    ∃ value, t.nonEmptyAttr? "page" = some value ∧ PageRequest.ofString? value = some request := by
  unfold pageRequest at h
  split at h
  · next value hpage =>
    split at h
    · next hvalue =>
      cases h
      exact ⟨value, hpage, hvalue⟩
    · cases h
  · simp [hdeck] at h

/-! ## 3. Refused tags -/

variable [VoiceRegistry ρ]

theorem obey_of_clip (h : isClip t.name = true) : p.obey s t = p.clip s t := if_pos h

theorem obey_of_mark (h : t.name = "mark") : p.obey s t = p.mark s t := by
  simp [obey, enter, isClip, h]

theorem obey_of_voice (h : t.name = "voice") : p.obey s t = p.voiceTag t := by
  simp [obey, enter, isClip, h]

theorem obey_of_image (h : t.name = "image") : p.obey s t = p.image s t := by
  simp [obey, enter, isClip, h]

theorem obey_of_slide (h : t.name = "slide") : p.obey s t = p.slide s t := by
  simp [obey, enter, isClip, h]

theorem registryBehind_of_ne (h : t.name ≠ "voice") : p.registryBehind t = p.registry := by
  unfold registryBehind
  split
  · exact if_neg h
  · rfl

theorem registryBehind_of_unnamed (h : t.nonEmptyAttr? "name" = none) :
    p.registryBehind t = p.registry := by
  rw [registryBehind, h]

theorem registryBehind_of_voice {name : String} (ht : t.name = "voice")
    (h : t.nonEmptyAttr? "name" = some name) :
    p.registryBehind t = (VoiceRegistry.lookup p.registry name).2 := by
  rw [registryBehind, h]
  exact if_pos ht

theorem ne_voice_of_isClip (h : isClip t.name = true) : t.name ≠ "voice" := by
  intro hname
  rw [hname] at h
  exact absurd h (by decide)

/-- **A refused tag leaves the state as it was**, but for the warning of its reason. -/
theorem obey_of_refused {problem : Problem} (h : Refused s t p problem) :
    p.obey s t = Progress.warn { p with registry := p.registryBehind t } t problem := by
  cases h with
  | markUnnamed ht hname =>
    rw [obey_of_mark ht, registryBehind_of_unnamed hname, mark, hname]
  | markTaken ht hname htaken =>
    rw [obey_of_mark ht, registryBehind_of_ne (by simp [ht]), mark, hname]
    exact if_pos htaken
  | voiceUnnamed ht hname =>
    rw [obey_of_voice ht, registryBehind_of_unnamed hname, voiceTag, hname]
  | voiceUnknown ht hname hanswer =>
    rw [obey_of_voice ht, registryBehind_of_voice ht hname, voiceTag, hname]
    simp [VoiceRegistry.hasVoice, hanswer, Except.map]
  | voiceUnanswered ht hname hanswer =>
    rw [obey_of_voice ht, registryBehind_of_voice ht hname, voiceTag, hname]
    simp [VoiceRegistry.hasVoice, hanswer, Except.map]
  | imageUnnamed ht hsource =>
    rw [obey_of_image ht, registryBehind_of_ne (by simp [ht]), image, hsource]
  | imageMissing ht hsource hfile =>
    rw [obey_of_image ht, registryBehind_of_ne (by simp [ht]), image, hsource]
    exact if_pos (by simpa [Scene.locate] using hfile)
  | deckUndeclared ht hdeck hnone =>
    rw [obey_of_slide ht, registryBehind_of_ne (by simp [ht]),
      slide_of_error (slideTarget_of_undeclared hdeck hnone)]
  | @pageUnreadable value ht hdecks hpage hvalue =>
    have hrequest : pageRequest t = .error (.pageInvalid value) := by
      rw [pageRequest, hpage]
      dsimp only
      rw [hvalue]
    rw [obey_of_slide ht, registryBehind_of_ne (by simp [ht]),
      slide_of_error (slideTarget_of_pageRequest hdecks hrequest)]
  | pageMissing ht hdeck hpage =>
    have hrequest : pageRequest t = .error .slideWithoutPage := by simp [pageRequest, hpage, hdeck]
    rw [obey_of_slide ht, registryBehind_of_ne (by simp [ht]),
      slide_of_error (slideTarget_of_pageRequest (by simp [hdeck]) hrequest)]
  | @deckLost value request ht hdeck hpage hvalue hnone =>
    have hrequest : pageRequest t = .ok request := by
      rw [pageRequest, hpage]
      dsimp only
      rw [hvalue]
    rw [obey_of_slide ht, registryBehind_of_ne (by simp [ht]),
      slide_of_error (slideTarget_of_lost hdeck hrequest hnone)]
  | clipUnnamed ht hsource =>
    rw [obey_of_clip ht, registryBehind_of_ne (ne_voice_of_isClip ht), clip, hsource]
  | clipMissing ht hsource hfile =>
    rw [obey_of_clip ht, registryBehind_of_ne (ne_voice_of_isClip ht), clip, hsource]
    exact if_pos (by simpa [Scene.locate] using hfile)
  | clipEmpty ht hsource hfile hfirst hlast hle =>
    rw [obey_of_clip ht, registryBehind_of_ne (ne_voice_of_isClip ht), clip, hsource]
    dsimp only
    rw [clipWindow_of_empty hfirst hlast hle, if_neg (by simpa [Scene.locate] using hfile)]
    simp [addWarnings, tell]

/-! ## 4. Tags that are not refused -/

theorem takesEffect_mark (ht : t.name = "mark") (h : ∀ problem, ¬ Refused s t p problem) :
    TakesEffect s t p (p.mark s t) := by
  rcases mark_cases s t p with ⟨-, htaken⟩ | ⟨name, hname, -, heq⟩
  · cases hname : t.nonEmptyAttr? "name" with
    | none => exact absurd (.markUnnamed ht hname) (h _)
    | some name => exact absurd (.markTaken ht hname (htaken name hname)) (h _)
  · refine .mark ht hname ?_
    rw [heq, acceptMark]
    by_cases hs : s.declarations.startMark = some name <;>
      by_cases he : s.declarations.endMark = some name <;>
      simp [hs, he, setMark, tell, Table.get?_insert]

theorem takesEffect_voiceTag (ht : t.name = "voice") (h : ∀ problem, ¬ Refused s t p problem) :
    TakesEffect s t p (p.voiceTag t) := by
  cases hname : t.nonEmptyAttr? "name" with
  | none => exact absurd (.voiceUnnamed ht hname) (h _)
  | some name =>
    cases hanswer : (VoiceRegistry.lookup p.registry name).1 with
    | error e => exact absurd (.voiceUnanswered ht hname hanswer) (h _)
    | ok found =>
      cases found with
      | none => exact absurd (.voiceUnknown ht hname hanswer) (h _)
      | some backend =>
        refine .voice ht hname ?_
        simp [voiceTag, hname, VoiceRegistry.hasVoice, hanswer, Except.map]

theorem takesEffect_image (ht : t.name = "image") (h : ∀ problem, ¬ Refused s t p problem) :
    TakesEffect s t p (p.image s t) := by
  rcases image_cases s t p with ⟨hfile, -⟩ | ⟨path, hfile, heq⟩
  · rcases file?_eq_none hfile with hsource | ⟨source, hsource, hmissing⟩
    · exact absurd (.imageUnnamed ht hsource) (h _)
    · exact absurd (.imageMissing ht hsource hmissing) (h _)
  · rw [heq]
    exact .image ht hfile rfl

/-- Every fault that is found on the way to a page is a reason. -/
theorem refused_of_slideTarget (ht : t.name = "slide") {problem : Problem}
    (h : slideTarget s t p = .error problem) : Refused s t p problem := by
  rcases slideTarget_cases s t p with ⟨id, hid, hnone, htarget⟩ | ⟨id, hid, htarget⟩ <;>
    rw [htarget] at h
  · cases h
    exact .deckUndeclared ht hid hnone
  have hdecks : ∀ id', t.nonEmptyAttr? "deck" = some id' →
      (s.declarations.deck? id').isSome = true := by
    intro id' hid'
    rcases hid with ⟨hid, hsome⟩ | ⟨hid, -⟩ <;> rw [hid'] at hid
    · cases hid
      exact hsome
    · cases hid
  unfold targetIn at h
  split at h
  · next problem' hpage =>
    cases h
    rcases pageRequest_eq_error hpage with ⟨value, hvalue, hread, rfl⟩ | ⟨hvalue, hdeck, rfl⟩
    · exact .pageUnreadable ht hdecks hvalue hread
    · exact .pageMissing ht hdeck hvalue
  · next request hpage =>
    split at h
    · cases h
    · next hnone =>
      cases h
      rcases hid with ⟨-, hsome⟩ | ⟨hdeck, rfl⟩
      · rw [hnone] at hsome
        cases hsome
      · obtain ⟨value, hvalue, hread⟩ := pageRequest_eq_ok hpage hdeck
        exact .deckLost ht hdeck hvalue hread hnone

theorem takesEffect_slide (ht : t.name = "slide") (h : ∀ problem, ¬ Refused s t p problem) :
    TakesEffect s t p (p.slide s t) := by
  rcases slide_cases s t p with ⟨problem, htarget, -⟩ | ⟨id, deck, request, htarget, heq⟩
  · exact absurd (refused_of_slideTarget ht htarget) (h problem)
  · rw [heq]
    exact .slide ht htarget rfl rfl

/-- A clip that cannot be used has a reason. -/
theorem refused_of_clip? (p : Progress ρ) (ht : isClip t.name = true) (h : s.clip? t = none) :
    ∃ problem, Refused s t p problem := by
  cases hfile : s.file? t with
  | none =>
    rcases file?_eq_none hfile with hsource | ⟨source, hsource, hmissing⟩
    · exact ⟨_, .clipUnnamed ht hsource⟩
    · exact ⟨_, .clipMissing ht hsource hmissing⟩
  | some path =>
    obtain ⟨source, hsource, hthere⟩ := file?_eq_some hfile
    cases hwindow : (clipWindow t).1 with
    | error bounds =>
      obtain ⟨hfirst, hlast, hle⟩ := clipWindow_eq_error hwindow
      exact ⟨_, .clipEmpty ht hsource hthere hfirst hlast hle⟩
    | ok window =>
      rw [Scene.clip?, hfile, hwindow] at h
      cases h

theorem takesEffect_clip (ht : isClip t.name = true) (h : ∀ problem, ¬ Refused s t p problem) :
    TakesEffect s t p (p.clip s t) := by
  rcases clip_cases s t p with ⟨hclip, -⟩ | ⟨path, window, hclip, heq⟩
  · obtain ⟨problem, hproblem⟩ := refused_of_clip? p ht hclip
    exact absurd hproblem (h problem)
  · rw [heq]
    dsimp only
    split
    · rw [addVideo_eq]
      exact .clip ht (by rw [hclip]; rfl) rfl
    · rw [addAudio_eq]
      exact .clip ht (by rw [hclip]; rfl) rfl

/-- A splitting tag that is not refused takes effect. -/
theorem takesEffect_obey (ht : isSplitting t.name = true) (h : ∀ problem, ¬ Refused s t p problem) :
    TakesEffect s t p (p.obey s t) := by
  cases hclip : isClip t.name with
  | true =>
    rw [obey_of_clip hclip]
    exact takesEffect_clip hclip h
  | false =>
    simp only [isClip, Bool.or_eq_false_iff, beq_eq_false_iff_ne] at hclip
    simp only [isSplitting, Bool.or_eq_true, beq_iff_eq] at ht
    rcases ht with ((((ht | ht) | ht) | ht) | ht) | ht
    · rw [obey_of_voice ht]
      exact takesEffect_voiceTag ht h
    · rw [obey_of_slide ht]
      exact takesEffect_slide ht h
    · exact absurd ht hclip.1
    · rw [obey_of_image ht]
      exact takesEffect_image ht h
    · exact absurd ht hclip.2
    · rw [obey_of_mark ht]
      exact takesEffect_mark ht h

end Progress

/-- **Refusing a tag is atomic.**  In every state a refused tag adds one warning, which carries its name
and the reason, and tells it; all else stays, but for a registry that was asked.  No other tag is without
effect. -/
theorem obey_refused_or_takesEffect [VoiceRegistry ρ] (s : Scene) (t : Tag) (p : Progress ρ) :
    (∀ problem, Refused s t p problem →
      p.obey s t = { p with
        registry := p.registryBehind t
        plan := { p.plan with warnings := p.plan.warnings ++ [⟨t.name, problem⟩] }
        notices := p.notices ++ [.warning ⟨t.name, problem⟩] }) ∧
      (isSplitting t.name = true → (∀ problem, ¬ Refused s t p problem) →
        TakesEffect s t p (p.obey s t)) :=
  ⟨fun _ h => Progress.obey_of_refused h, Progress.takesEffect_obey⟩

/-- A video whose bounds are the same point in two styles, and whose fit is not even read. -/
theorem obey_refused_of_empty_window :
    let s : Scene := ⟨Declarations.empty, Path.ofString "/", fun _ => true, true⟩
    let t : Tag := ⟨"video", [("src", "v.mp4"), ("clipBegin", "01:00"), ("clipEnd", "60s"),
      ("fit", "wide")]⟩
    let registry : String → RegistryAnswer := fun _ => .ok none
    let p : Progress (String → RegistryAnswer) := .start s .standard ⟨"speak", []⟩ registry
    let problem : Problem := .clipEmpty "video" "v.mp4" "00:01:00.000" "00:01:00.000"
    Refused s t p problem ∧ (p.obey s t).plan.warnings = [⟨"video", problem⟩] := by
  intro s t registry p problem
  have hfirst : (clipPoint t "clipBegin").1 = some ⟨60000⟩ := by decide +kernel
  have hlast : (clipPoint t "clipEnd").1 = some ⟨60000⟩ := by decide +kernel
  have hwritten : (⟨60000⟩ : Timestamp).canonical = "00:01:00.000" := by decide +kernel
  have hrefused : Refused s t p problem := by
    have hempty : Refused s t p _ := .clipEmpty rfl rfl rfl hfirst hlast (Nat.le_refl _)
    rwa [hwritten] at hempty
  refine ⟨hrefused, ?_⟩
  rw [(obey_refused_or_takesEffect s t p).1 problem hrefused]
  rfl

end LecturePlan

import LecturePlan.Proofs.Compile.SideBySide
import LecturePlan.Proofs.Compile.Speaker
/-!
# Registries that answer alike

A compilation sees of a registry what it answers, and asks it in two places: at voice tags, where an
answer decides who speaks, and when the sections are measured, where it decides what is too long.  Both
look only at the backend that is known by the answer (`known`), and say in a warning why none is.

* Of two answers that know the same and are reported alike, both places make the same
  (`Alike.voiceTag`, `measure_alike`).
* What other steps do to a state they do to its bare state: each is an `onto_` lemma, which says that it
  makes no difference whether a registry and what has been told are added before the step or behind it.

So registries whose answers are alike give results that are (`compile_alike`).  Two cases of this are of
use: a registry that fails compared with one that says that there is no such voice
(`compile_of_failures`), and a registry compared with one that always answers the same
(`compile_eq_of_sameAnswers`).
-/

namespace LecturePlan

open LecturePlan.Markup

variable {ρ σ β : Type}

/-! ## 1. Answers -/

/-- The backend that is known by an answer.  By a failure none is, as if there were no such voice. -/
def known (answer : RegistryAnswer) : Option Backend := answer.toOption.join

/-- What a voice tag reports of the answer for its name. -/
def voiceReport (t : Tag) (name : String) : RegistryAnswer → List Warning
  | .ok (some _) => []
  | .ok none => [⟨t.name, .voiceUnknown name⟩]
  | .error e => [⟨t.name, .voiceNotLookedUp name e⟩]

/-- **Two answers are alike**, as far as `f` tells warnings apart: they know the same, and what is
reported of them looks the same. -/
structure AnswersAlike (f : Warning → β) (a a' : RegistryAnswer) : Prop where
  known : known a = known a'
  voice (t : Tag) (name : String) : (voiceReport t name a).map f = (voiceReport t name a').map f
  length (id : Nat) (voice content : String) :
    (checkAnswer id voice content a).2.map f = (checkAnswer id voice content a').2.map f

theorem AnswersAlike.refl (f : Warning → β) (a : RegistryAnswer) : AnswersAlike f a a :=
  ⟨rfl, fun _ _ => rfl, fun _ _ _ => rfl⟩

/-- A failure is reported of the same tag as an answer that there is no such voice. -/
theorem answersAlike_of_known {a a' : RegistryAnswer} (h : known a = known a') :
    AnswersAlike Warning.tag a a' := by
  obtain e | found := a <;> obtain e' | found' := a'
  · exact ⟨rfl, fun _ _ => rfl, fun _ _ _ => rfl⟩
  · obtain rfl : none = found' := h
    exact ⟨rfl, fun _ _ => rfl, fun _ _ _ => rfl⟩
  · obtain rfl : found = none := h
    exact ⟨rfl, fun _ _ => rfl, fun _ _ _ => rfl⟩
  · obtain rfl : found = found' := h
    exact .refl _ _

/-- Which limits a section exceeds depends on the backend that is known. -/
theorem checkAnswer_fst_congr {a a' : RegistryAnswer} (h : known a = known a') (id : Nat)
    (voice content : String) :
    (checkAnswer id voice content a).1 = (checkAnswer id voice content a').1 := by
  obtain e | found := a <;> obtain e' | found' := a'
  · rfl
  · obtain rfl : none = found' := h
    rfl
  · obtain rfl : found = none := h
    rfl
  · obtain rfl : found = found' := h
    rfl

namespace VoiceRegistry

variable [VoiceRegistry ρ] [VoiceRegistry σ]

/-- **Two registries answer alike**: asked the same, they give answers that are alike. -/
def Alike (f : Warning → β) (r : ρ) (r' : σ) : Prop :=
  ∀ (asked : List String) (name : String),
    AnswersAlike f (lookup (askAll r asked) name).1 (lookup (askAll r' asked) name).1

/-- A registry looks names up as a function of the name, whatever it has been asked before. -/
def LooksUp (answer : String → RegistryAnswer) (r : ρ) : Prop :=
  ∀ (asked : List String) (name : String), (lookup (askAll r asked) name).1 = answer name

variable {f : Warning → β} {r : ρ} {r' : σ}

theorem Alike.now (h : Alike f r r') (name : String) :
    AnswersAlike f (lookup r name).1 (lookup r' name).1 := h [] name

theorem Alike.next (h : Alike f r r') (name : String) :
    Alike f (lookup r name).2 (lookup r' name).2 := fun asked => h (name :: asked)

/-- A registry that never changes looks names up as a function of the name. -/
theorem looksUp_of_fixed (h : ∀ name, (lookup r name).2 = r) :
    LooksUp (fun name => (lookup r name).1) r := by
  intro asked name
  rw [askAll_of_fixed h]

end VoiceRegistry

/-! ## 2. Bare states -/

namespace Progress

/-- A state without its registry and without what has been told. -/
def bare (p : Progress ρ) : Progress Unit :=
  { p with registry := (), plan := { p.plan with warnings := [] }, notices := [] }

/-- A bare state, with the registry of another state and told after what has been told there. -/
def onto (p : Progress ρ) (b : Progress Unit) : Progress ρ :=
  { b with
    registry := p.registry
    plan := { b.plan with warnings := p.plan.warnings ++ b.plan.warnings }
    notices := p.notices ++ b.notices }

@[simp] theorem onto_bare (p : Progress ρ) : p.onto p.bare = p := by
  simp [onto, bare]

theorem bare_addWarnings (p : Progress ρ) (registry : ρ) (voice : String) (ws : List Warning) :
    (addWarnings { p with registry, voice } ws).bare = { p.bare with voice } := rfl

section Onto

variable (s : Scene) (t : Tag) (p : Progress ρ) (b : Progress Unit)

@[simp] theorem onto_addWarnings (ws : List Warning) :
    p.onto (b.addWarnings ws) = (p.onto b).addWarnings ws := by
  simp [onto, addWarnings, tell]

@[simp] theorem onto_warn (problem : Problem) :
    p.onto (b.warn t problem) = (p.onto b).warn t problem := onto_addWarnings p b _

theorem onto_flush : p.onto b.flush = (p.onto b).flush := by
  rcases flush_cases b with ⟨hself, h⟩ | ⟨he, ht, h⟩ <;> rw [h]
  · exact (flush_eq_self (p := p.onto b) hself).symm
  · exact (flush_eq (p := p.onto b) he ht).symm

theorem onto_acceptMark (name : String) (title : Option String) :
    p.onto (b.acceptMark s name title) = (p.onto b).acceptMark s name title := by
  by_cases hs : s.declarations.startMark = some name <;>
    by_cases he : s.declarations.endMark = some name <;>
    simp [acceptMark, hs, he, onto, restart, setMark, tell]

theorem onto_mark : p.onto (b.mark s t) = (p.onto b).mark s t := by
  unfold mark
  cases t.nonEmptyAttr? "name" with
  | none => exact onto_warn t p b _
  | some name =>
    dsimp only
    rw [show (p.onto b).plan.marks = b.plan.marks from rfl]
    split
    · exact onto_warn t p b _
    · exact onto_acceptMark s p b name _

theorem onto_image : p.onto (b.image s t) = (p.onto b).image s t := by
  unfold image
  cases t.nonEmptyAttr? "src" with
  | none => exact onto_warn t p b _
  | some source =>
    dsimp only
    split
    · exact onto_warn t p b _
    · simp [onto, addWarnings, tell]

theorem onto_slide : p.onto (b.slide s t) = (p.onto b).slide s t := by
  have htarget : slideTarget s t (p.onto b) = slideTarget s t b := rfl
  unfold slide
  rw [htarget]
  cases slideTarget s t b with
  | error problem => exact onto_warn t p b problem
  | ok target => simp [onto, addWarnings, tell, showPage]

theorem onto_addVideo (path : Path) (window : ClipBound × ClipBound) :
    p.onto (b.addVideo s t path window) = (p.onto b).addVideo s t path window := by
  simp [addVideo_eq, onto, addSection, addWarnings, tell]

theorem onto_addAudio (path : Path) (window : ClipBound × ClipBound) :
    p.onto (b.addAudio t path window) = (p.onto b).addAudio t path window := by
  simp [addAudio_eq, onto, addSection, addWarnings, tell]

theorem onto_clip : p.onto (b.clip s t) = (p.onto b).clip s t := by
  unfold clip
  cases t.nonEmptyAttr? "src" with
  | none => exact onto_warn t p b _
  | some source =>
    dsimp only
    split
    · exact onto_warn t p b _
    · cases (clipWindow t).1 with
      | error bounds => simp
      | ok window =>
        dsimp only
        split
        · rw [onto_addVideo, onto_addWarnings]
        · rw [onto_addAudio, onto_addWarnings]

end Onto

/-! ## 3. States that are alike -/

/-- The effect of a voice tag whose name has been looked up. -/
theorem voiceTag_eq [VoiceRegistry ρ] {t : Tag} {name : String} (h : t.nonEmptyAttr? "name" = some name)
    (p : Progress ρ) :
    p.voiceTag t =
      let asked := VoiceRegistry.lookup p.registry name
      addWarnings { p with
        registry := asked.2
        voice := if (known asked.1).isSome then name else p.voice } (voiceReport t name asked.1) := by
  simp only [voiceTag, h, VoiceRegistry.hasVoice]
  obtain e | found := (VoiceRegistry.lookup p.registry name).1
  · rfl
  · cases found with
    | none => rfl
    | some backend => simp [Except.map, known, Except.toOption, voiceReport, addWarnings, tell]

/-- **Two states are alike**, as far as `f` tells warnings apart: their registries answer alike, and but
for what has been told they are the same. -/
structure Alike [VoiceRegistry ρ] [VoiceRegistry σ] (f : Warning → β) (p : Progress ρ)
    (q : Progress σ) : Prop where
  registry : VoiceRegistry.Alike f p.registry q.registry
  warnings : p.plan.warnings.map f = q.plan.warnings.map f
  bare : p.bare = q.bare

namespace Alike

variable [VoiceRegistry ρ] [VoiceRegistry σ] {f : Warning → β} {p : Progress ρ} {q : Progress σ}

theorem onto (h : p.Alike f q) (b : Progress Unit) : (p.onto b).Alike f (q.onto b) where
  registry := h.registry
  warnings := by simp [Progress.onto, h.warnings]
  bare := rfl

/-- What is done to bare states in the same way leaves states alike. -/
theorem map (h : p.Alike f q) (op : (τ : Type) → Progress τ → Progress τ)
    (hop : ∀ (τ : Type) (p : Progress τ) (b : Progress Unit), p.onto (op Unit b) = op τ (p.onto b)) :
    (op ρ p).Alike f (op σ q) := by
  -- both states are their common bare state, with different things added
  have hp : p.onto (op Unit p.bare) = op ρ p := by rw [hop, onto_bare]
  have hq : q.onto (op Unit q.bare) = op σ q := by rw [hop, onto_bare]
  rw [← hp, ← hq, h.bare]
  exact h.onto _

theorem voice (h : p.Alike f q) : q.voice = p.voice := (congrArg Progress.voice h.bare).symm

theorem warn (h : p.Alike f q) (t : Tag) (problem : Problem) :
    (p.warn t problem).Alike f (q.warn t problem) :=
  h.map (fun _ p => p.warn t problem) fun _ p b => onto_warn t p b problem

theorem voiceTag (h : p.Alike f q) (t : Tag) : (p.voiceTag t).Alike f (q.voiceTag t) := by
  cases hname : t.nonEmptyAttr? "name" with
  | none =>
    simp only [Progress.voiceTag, hname]
    exact h.warn t _
  | some name =>
    have hnow := h.registry.now name
    rw [voiceTag_eq hname, voiceTag_eq hname]
    refine ⟨h.registry.next name, ?_, ?_⟩
    · simp [addWarnings, tell, h.warnings, hnow.voice]
    · dsimp only
      rw [bare_addWarnings, bare_addWarnings, h.bare, h.voice, hnow.known]

end Alike

/-- Every step keeps states alike. -/
theorem keptBoth_alike [VoiceRegistry ρ] [VoiceRegistry σ] (s : Scene) (f : Warning → β) :
    KeptBoth s fun (p : Progress ρ) (q : Progress σ) => p.Alike f q where
  ended h := (congrArg Progress.ended h.bare).symm
  text text h :=
    h.map (fun _ p => { p with content := p.content.addText text }) fun _ _ _ => rfl
  openTag t h := h.map (fun _ p => { p with content := p.content.openTag t }) fun _ _ _ => rfl
  close h := h.map (fun _ p => { p with content := p.content.close }) fun _ _ _ => rfl
  flush h := h.map (fun _ => flush) fun _ => onto_flush
  clip t h := h.map (fun _ => clip s t) fun _ => onto_clip s t
  mark t h := h.map (fun _ => mark s t) fun _ => onto_mark s t
  voiceTag t h := h.voiceTag t
  image t h := h.map (fun _ => image s t) fun _ => onto_image s t
  slide t h := h.map (fun _ => slide s t) fun _ => onto_slide s t
  leave {p outer q outer'} h houter := by
    rw [houter.voice]
    exact h.map (fun _ p => { p with voice := outer.voice }) fun _ _ _ => rfl

end Progress

/-! ## 4. Results that are alike -/

section Results

variable [VoiceRegistry ρ] [VoiceRegistry σ] {f : Warning → β}

/-- Sections are measured alike: the same exceed the same limits, and the warnings look the same. -/
theorem measure_alike : ∀ (ss : List Section) {r : ρ} {r' : σ}, VoiceRegistry.Alike f r r' →
    (measure r ss).violations = (measure r' ss).violations ∧
      (measure r ss).warnings.map f = (measure r' ss).warnings.map f
  | [], _, _, _ => ⟨rfl, rfl⟩
  | ⟨id, kind⟩ :: ss, r, r', h => by
    cases kind with
    | speech frame voice content =>
      have hnow := h.now voice
      obtain ⟨hviolations, hwarnings⟩ := measure_alike ss (h.next voice)
      simp only [measure, List.map_append]
      rw [checkAnswer_fst_congr hnow.known, hnow.length, hviolations, hwarnings]
      exact ⟨rfl, rfl⟩
    | video => exact measure_alike ss h
    | audio => exact measure_alike ss h

/-- A plan, as far as `f` tells its warnings apart: the plan without warnings, and what they look
like. -/
def Plan.upTo (f : Warning → β) (plan : Plan) : Plan × List β :=
  ({ plan with warnings := [] }, plan.warnings.map f)

/-- **Registries that answer alike give results that are alike.** -/
theorem compile_alike (s : Scene) (c : Config) (root : Element) {r : ρ} {r' : σ}
    (h : VoiceRegistry.Alike f r r') :
    (compile s c root r).1.map (Plan.upTo f) = (compile s c root r').1.map (Plan.upTo f) := by
  have hdone : (traverse s c root r).Alike f (traverse s c root r') :=
    (Progress.keptBoth_alike s f).traverse c root ⟨h, rfl, rfl⟩
  generalize hp : traverse s c root r = p at hdone
  generalize hq : traverse s c root r' = q at hdone
  have hplan : { p.plan with warnings := [] } = { q.plan with warnings := [] } :=
    congrArg Progress.plan hdone.bare
  have hpruned : p.plan.pruneChapters = { q.plan.pruneChapters with warnings := p.plan.warnings } :=
    congrArg (fun plan : Plan => { plan.pruneChapters with warnings := p.plan.warnings }) hplan
  obtain ⟨hviolations, hwarnings⟩ := measure_alike q.plan.sections hdone.registry
  have hsections : q.plan.pruneChapters.sections = q.plan.sections := rfl
  have htold : q.plan.pruneChapters.warnings = q.plan.warnings := rfl
  simp only [compile, hp, hq, hpruned, hsections, htold]
  rw [hviolations]
  split
  · rfl
  · cases (measure q.registry q.plan.sections).violations with
    | nil => simp [Except.map, Plan.upTo, hdone.warnings, hwarnings]
    | cons v vs => rfl

/-- A compilation sees of a registry nothing but its answers. -/
theorem compile_eq_of_sameAnswers (s : Scene) (c : Config) (root : Element) {r : ρ} {r' : σ}
    (h : ∀ (asked : List String) (name : String),
      (VoiceRegistry.lookup (VoiceRegistry.askAll r asked) name).1 =
        (VoiceRegistry.lookup (VoiceRegistry.askAll r' asked) name).1) :
    (compile s c root r).1 = (compile s c root r').1 := by
  have halike : VoiceRegistry.Alike id r r' := fun asked name => h asked name ▸ .refl _ _
  have hmap := compile_alike s c root halike
  generalize (compile s c root r).1 = result at hmap
  generalize (compile s c root r').1 = result' at hmap
  obtain e | plan := result <;> obtain e' | plan' := result'
  · exact congrArg Except.error (Except.error.inj hmap)
  · cases hmap
  · cases hmap
  · have hupTo : plan.upTo id = plan'.upTo id := Except.ok.inj hmap
    obtain ⟨hplan, hwarnings⟩ := Prod.mk.inj hupTo
    rw [List.map_id, List.map_id] at hwarnings
    exact congrArg Except.ok <|
      (congrArg (fun p : Plan => { p with warnings := plan.warnings }) hplan).trans (by rw [hwarnings])

/-- **Failures degrade to unknown voices.**  A registry may fail for any names.  Compared with one that
says of these names that there is no such voice, it gives the same error, or the same plan with as many
warnings of the same tags: only what a warning says of its voice may differ. -/
theorem compile_of_failures (s : Scene) (c : Config) (root : Element) {registry : ρ} {degraded : σ}
    {answer : String → RegistryAnswer} (h : VoiceRegistry.LooksUp answer registry)
    (hdegraded : VoiceRegistry.LooksUp (fun name => .ok (known (answer name))) degraded) :
    (compile s c root registry).1.map (Plan.upTo Warning.tag) =
      (compile s c root degraded).1.map (Plan.upTo Warning.tag) := by
  refine compile_alike s c root fun asked name => answersAlike_of_known ?_
  rw [h, hdegraded]
  rfl

/-- A lookup that fails in a voice that exists.  The text of both is spoken by that voice, and the
script's own voice, for which the lookup fails as well, is not measured. -/
theorem compile_of_failures_in_voice :
    let s : Scene := ⟨Declarations.empty, Path.ofString "/", fun _ => false, false⟩
    let root : Element := ⟨⟨"speak", []⟩, [.text "One.",
      .element ⟨"voice", [("name", "Bob")]⟩
        [.text "Two.", .element ⟨"voice", [("name", "Eve")]⟩ [.text "Three."]]]⟩
    let registry : String → RegistryAnswer := fun name =>
      if name = "Bob" then .ok (some .googleCloud) else .error (.unavailable "down")
    let degraded : String → RegistryAnswer := fun name => .ok (known (registry name))
    VoiceRegistry.LooksUp registry registry ∧ VoiceRegistry.LooksUp degraded degraded ∧
      (compile s .standard root registry).1.map (Plan.upTo Warning.tag) =
        (compile s .standard root degraded).1.map (Plan.upTo Warning.tag) ∧
      (compile s .standard root registry).1.toOption.map (fun plan => plan.warnings.map (·.problem)) =
        some [.voiceNotLookedUp "Eve" (.unavailable "down"),
          .lengthNotChecked 1 (.unavailable "down")] ∧
      (compile s .standard root degraded).1.toOption.map (fun plan => plan.warnings.map (·.problem)) =
        some [.voiceUnknown "Eve", .lengthUnknownVoice 1 Config.standardVoice] := by
  intro s root registry degraded
  have h : VoiceRegistry.LooksUp registry registry := VoiceRegistry.looksUp_of_fixed fun _ => rfl
  have hdegraded : VoiceRegistry.LooksUp degraded degraded :=
    VoiceRegistry.looksUp_of_fixed fun _ => rfl
  exact ⟨h, hdegraded, compile_of_failures s .standard root h hdegraded, by decide +kernel,
    by decide +kernel⟩

end Results

end LecturePlan

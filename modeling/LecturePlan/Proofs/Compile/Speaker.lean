import LecturePlan.Proofs.Compile.Origin
/-!
# Who speaks

Voices are scoped: a voice tag that is accepted speaks for what stands in it, and behind it the voice
that was in force before speaks again.  The walk does this with one variable, which it sets and restores
by hand around sections that are made at other tags.  This module says who speaks at a place from the
elements around it alone (`voiceAt`), and proves that the voice of each speech section is who speaks at
each of the places it comes from (`voice_eq_voiceAt`).  So no section has text of two voices, and no voice
is heard behind its tag.

A registry may change when it is asked.  All that is asked of it here is that it says the same of a name
at any time (`VoiceRegistry.Answers`).
-/

namespace LecturePlan

open LecturePlan.Markup

/-! ## 1. Registries that stand by what they say -/

namespace VoiceRegistry

variable {ρ : Type} [VoiceRegistry ρ]

/-- A registry that has been asked about some names, one after the other. -/
def askAll (r : ρ) (names : List String) : ρ := names.foldl (fun r name => (hasVoice r name).2) r

/-- A registry answers as a function of the name, whatever it has been asked before. -/
def Answers (answer : String → Except RegistryError Bool) (r : ρ) : Prop :=
  ∀ (asked : List String) (name : String), (hasVoice (askAll r asked) name).1 = answer name

variable {answer : String → Except RegistryError Bool} {r : ρ}

theorem Answers.now (h : Answers answer r) (name : String) : (hasVoice r name).1 = answer name :=
  h [] name

theorem Answers.next (h : Answers answer r) (name : String) : Answers answer (hasVoice r name).2 :=
  fun asked => h (name :: asked)

/-- A registry that does not change when it is asked never changes. -/
theorem askAll_of_fixed (h : ∀ name, (hasVoice r name).2 = r) (asked : List String) :
    askAll r asked = r := by
  induction asked with
  | nil => rfl
  | cons asked rest ih => rw [askAll, List.foldl_cons, h asked, ← askAll, ih]

/-- So it answers as a function of the name. -/
theorem answers_of_fixed (h : ∀ name, (hasVoice r name).2 = r) :
    Answers (fun name => (hasVoice r name).1) r := by
  intro asked name
  rw [askAll_of_fixed h]

end VoiceRegistry

/-! ## 2. Who speaks at a place -/

/-- The voice that an element gives to what stands in it: the name of a voice tag, if there is such a
voice. -/
def Markup.Tag.speaker? (answer : String → Except RegistryError Bool) (t : Tag) : Option String :=
  if t.name = "voice" then
    (t.nonEmptyAttr? "name").filter fun name => (answer name).toOption == some true
  else none

/-- **Who speaks at a place**, given the elements around it from the inside out: the voice of the
innermost that gives one, and else the voice of the script. -/
def voiceAt (s : Scene) (c : Config) (answer : String → Except RegistryError Bool)
    (around : List Tag) : String :=
  (around.findSome? (Tag.speaker? answer)).getD
    (s.declarations.settings.voice?.getD c.defaultVoice)

theorem voiceAt_cons (s : Scene) (c : Config) (answer : String → Except RegistryError Bool) (t : Tag)
    (around : List Tag) :
    voiceAt s c answer (t :: around) = (t.speaker? answer).getD (voiceAt s c answer around) := by
  rw [voiceAt, List.findSome?_cons]
  cases t.speaker? answer <;> rfl

theorem speaker?_of_ne {answer : String → Except RegistryError Bool} {t : Tag}
    (h : t.name ≠ "voice") : t.speaker? answer = none := if_neg h

theorem ne_voice_of_plain {t : Tag} (h : isSplitting t.name = false) : t.name ≠ "voice" := by
  intro hname
  rw [hname] at h
  revert h
  decide

/-! ## 3. What the tags do to the voice -/

variable {ρ : Type} [VoiceRegistry ρ]

/-- **The walk speaks with the voice of its place**, and its registry stands by what it says. -/
structure Progress.SpeaksAs (s : Scene) (c : Config) (answer : String → Except RegistryError Bool)
    (around : List Tag) (p : Progress ρ) : Prop where
  voice : p.voice = voiceAt s c answer around
  registry : VoiceRegistry.Answers answer p.registry

namespace Progress.SpeaksAs

variable {s : Scene} {c : Config} {answer : String → Except RegistryError Bool} {around : List Tag}
  {p q : Progress ρ}

theorem congr (h : p.SpeaksAs s c answer around) (hvoice : q.voice = p.voice)
    (hregistry : q.registry = p.registry) : q.SpeaksAs s c answer around :=
  ⟨hvoice.trans h.voice, hregistry ▸ h.registry⟩

theorem dropped (h : p.SpeaksAs s c answer around) {t : Tag} (hq : Dropped t p q) :
    q.SpeaksAs s c answer around := by
  obtain ⟨ws, -, -, rfl⟩ := hq
  exact h.congr rfl rfl

/-- Into a tag that gives no voice the voice around it goes on. -/
theorem cons (h : p.SpeaksAs s c answer around) {t : Tag} (ht : t.name ≠ "voice") :
    p.SpeaksAs s c answer (t :: around) where
  voice := by rw [h.voice, voiceAt_cons, speaker?_of_ne ht, Option.getD_none]
  registry := h.registry

theorem flush (h : p.SpeaksAs s c answer around) : p.flush.SpeaksAs s c answer around := by
  rcases flush_cases p with ⟨-, hf⟩ | ⟨-, -, hf⟩ <;> rw [hf]
  · exact h
  · exact h.congr rfl rfl

theorem clip (h : p.SpeaksAs s c answer around) (t : Tag) :
    (p.clip s t).SpeaksAs s c answer around := by
  rcases clip_cases s t p with ⟨-, hdrop⟩ | ⟨path, window, -, heq⟩
  · exact h.dropped hdrop
  · rw [heq]
    dsimp only
    split
    · rw [addVideo_eq]
      exact h.congr rfl rfl
    · rw [addAudio_eq]
      exact h.congr rfl rfl

/-- A voice tag speaks from then on if it is accepted. -/
theorem voiceTag (h : p.SpeaksAs s c answer around) {t : Tag} (ht : t.name = "voice") :
    (p.voiceTag t).SpeaksAs s c answer (t :: around) := by
  have hspeaker : t.speaker? answer = (t.nonEmptyAttr? "name").filter fun name =>
      (answer name).toOption == some true := if_pos ht
  unfold Progress.voiceTag
  cases hname : t.nonEmptyAttr? "name" with
  | none =>
    rw [hname] at hspeaker
    exact ⟨by rw [voiceAt_cons, hspeaker]; exact h.voice, h.registry⟩
  | some name =>
    have hnow := h.registry.now name
    have hnext := h.registry.next name
    rw [hname, Option.filter_some] at hspeaker
    dsimp only
    cases hanswer : answer name with
    | error e =>
      rw [hanswer] at hnow hspeaker
      rw [hnow]
      exact ⟨by rw [voiceAt_cons, hspeaker]; exact h.voice, hnext⟩
    | ok found =>
      rw [hanswer] at hnow hspeaker
      rw [hnow]
      cases found with
      | false => exact ⟨by rw [voiceAt_cons, hspeaker]; exact h.voice, hnext⟩
      | true => exact ⟨by rw [voiceAt_cons, hspeaker]; rfl, hnext⟩

theorem mark (h : p.SpeaksAs s c answer around) (t : Tag) :
    (p.mark s t).SpeaksAs s c answer around := by
  rcases mark_cases s t p with ⟨hdrop, -⟩ | ⟨name, -, -, heq⟩
  · exact h.dropped hdrop
  · rw [heq, acceptMark]
    by_cases hs : s.declarations.startMark = some name <;>
      by_cases he : s.declarations.endMark = some name <;>
      simp only [hs, he, if_true, if_false] <;>
      exact h.congr rfl rfl

theorem image (h : p.SpeaksAs s c answer around) (t : Tag) :
    (p.image s t).SpeaksAs s c answer around := by
  rcases image_cases s t p with ⟨-, hdrop⟩ | ⟨path, -, heq⟩
  · exact h.dropped hdrop
  · rw [heq]
    exact h.congr rfl rfl

theorem slide (h : p.SpeaksAs s c answer around) (t : Tag) :
    (p.slide s t).SpeaksAs s c answer around := by
  rcases slide_cases s t p with ⟨problem, -, heq⟩ | ⟨id, deck, request, -, heq⟩ <;>
  · rw [heq]
    exact h.congr rfl rfl

theorem enter (h : p.SpeaksAs s c answer around) (t : Tag) :
    (p.enter s t).SpeaksAs s c answer (t :: around) := by
  refine enter_cases s t p (fun ht => (h.mark t).cons ?_) h.voiceTag (fun ht => (h.image t).cons ?_)
    (fun ht => (h.slide t).cons ?_) fun ht => h.cons ?_
  all_goals
    intro hvoice
    simp [hvoice] at ht

end Progress.SpeaksAs

/-- The walk speaks with the voice of its place. -/
theorem kept_speaksAs (s : Scene) (c : Config) (answer : String → Except RegistryError Bool) :
    Kept s fun around _ (p : Progress ρ) => p.SpeaksAs s c answer around where
  pass _ h _ := h
  text _ h _ := h.congr rfl rfl
  openTag h hs := (h.cons (ne_voice_of_plain hs)).congr rfl rfl
  close {around seen p t} h hs := by
    have hvoice : voiceAt s c answer (t :: around) = voiceAt s c answer around := by
      rw [voiceAt_cons, speaker?_of_ne (ne_voice_of_plain hs), Option.getD_none]
    exact ⟨h.voice.trans hvoice, h.registry⟩
  flush h := h.flush
  clip h _ _ _ := h.clip _
  enter h _ _ _ _ := h.enter _
  leave houter h _ _ := ⟨houter.voice, h.registry⟩

/-! ## 4. The voices of a plan -/

/-- **Voices are scoped.**  A plan falls into parts, and the voice of a speech section is who speaks at
each of the places that it comes from, if the registry stands by what it says. -/
theorem voice_eq_voiceAt (s : Scene) (c : Config) (root : Element) (registry : ρ)
    (answer : String → Except RegistryError Bool) (hanswer : VoiceRegistry.Answers answer registry) :
    ∃ parts, (traverse s c root registry).plan.pruneChapters.HasParts s root parts ∧
      ∀ part ∈ parts, ∀ voice, part.sec.voice? = some voice → ∀ place ∈ part.places,
        voice = voiceAt s c answer place.cue.around := by
  obtain ⟨parts, hparts, hrecorded⟩ :=
    exists_parts (kept_speaksAs s c answer) c root registry ⟨rfl, hanswer⟩
  refine ⟨parts, hparts, fun part hpart voice hvoice place hplace => ?_⟩
  obtain ⟨q, hq, -, hrecord⟩ := hrecorded part hpart place hplace
  exact (hrecord voice hvoice).trans hq.here.voice

/-- A voice speaks in its tag, a missing one in it does not, and behind the tag the voice of the script
speaks again. -/
theorem voice_eq_voiceAt_of_nested :
    let s : Scene := ⟨Declarations.empty, Path.ofString "/", fun _ => false, false⟩
    let root : Element := ⟨⟨"speak", []⟩, [.text "One.",
      .element ⟨"voice", [("name", "Bob")]⟩
        [.text "Two.", .element ⟨"voice", [("name", "Eve")]⟩ [.text "Three."]],
      .text "Four."]⟩
    let registry : String → RegistryAnswer := fun name =>
      .ok (if name = "Bob" then some .other else none)
    let answer : String → Except RegistryError Bool := fun name => (registry name).map Option.isSome
    let plan := (traverse s .standard root registry).plan.pruneChapters
    VoiceRegistry.Answers answer registry ∧
      plan.sections.map Section.voice? =
        [some Config.standardVoice, some "Bob", some "Bob", some Config.standardVoice] ∧
      ∃ parts, plan.HasParts s root parts ∧
        ∀ part ∈ parts, ∀ voice, part.sec.voice? = some voice → ∀ place ∈ part.places,
          voice = voiceAt s .standard answer place.cue.around := by
  intro s root registry answer plan
  have hanswer : VoiceRegistry.Answers answer registry := VoiceRegistry.answers_of_fixed fun _ => rfl
  exact ⟨hanswer, by decide +kernel, voice_eq_voiceAt s .standard root registry answer hanswer⟩

end LecturePlan

import LecturePlan.Proofs.Compile.Invariant
/-!
# The walk is bracketed

The walk keeps the open elements and the voice in two variables, which it changes on the way into a node
and changes back by hand on the way out.  It leaves a node early in several places: behind the end mark, at
a declaration, at a clip.  And closing an element does nothing if only the root is open, so an element that
was closed twice would nest all that follows wrongly, and nothing would tell.

None of this happens, from whatever state a node is visited (`Progress.returns_visit`): the walk comes back
with the same elements open and the same voice.  Between opening an element and closing it, then, the
element itself is the innermost that is open, with another one around it, so closing never meets the root.
-/

namespace LecturePlan

open LecturePlan.Markup

/-! ## 1. Elements that are open -/

namespace Content

theorem tags_ne_nil (c : Content) : c.tags ≠ [] := List.cons_ne_nil _ _

theorem depth_eq_length_tags (c : Content) : c.depth = c.tags.length := by
  rw [depth, tags, List.length_map]

/-- An element with another one around it is closed. -/
theorem tags_close_of_tags {c : Content} {t : Tag} {ts : List Tag} (h : c.tags = t :: ts)
    (hts : ts ≠ []) : c.close.tags = ts := by
  have houter : c.outer ≠ [] := by
    intro hnil
    have htags : [c.inner.tag] = t :: ts := by rw [← h, tags, chain, hnil]; rfl
    exact hts (List.cons.inj htags).2.symm
  rw [tags_close, if_neg houter, h, List.tail_cons]

end Content

/-! ## 2. What the steps come back to -/

variable {ρ : Type}

namespace Progress

/-- **The walk comes back**: the same elements are open, and the same voice is in force. -/
structure Returns (p q : Progress ρ) : Prop where
  tags : q.content.tags = p.content.tags
  voice : q.voice = p.voice

namespace Returns

variable {p q r : Progress ρ}

theorem refl (p : Progress ρ) : p.Returns p := ⟨rfl, rfl⟩

theorem trans (h : p.Returns q) (h' : q.Returns r) : p.Returns r :=
  ⟨h'.tags.trans h.tags, h'.voice.trans h.voice⟩

/-- The end of a section drops what is below the open elements. -/
theorem flush (p : Progress ρ) : p.Returns p.flush := by
  rcases flush_cases p with ⟨-, hf⟩ | ⟨-, -, hf⟩ <;> rw [hf]
  · exact refl p
  · exact ⟨Content.tags_reset _, rfl⟩

/-- A clip opens nothing, and it is not spoken. -/
theorem clip (s : Scene) (t : Tag) (p : Progress ρ) : p.Returns (p.clip s t) := by
  rcases clip_cases s t p with ⟨-, ws, -, -, hdrop⟩ | ⟨path, window, -, heq⟩
  · rw [hdrop]
    exact ⟨rfl, rfl⟩
  · rw [heq]
    dsimp only
    split
    · rw [addVideo_eq]
      exact ⟨rfl, rfl⟩
    · rw [addAudio_eq]
      exact ⟨rfl, rfl⟩

end Returns

/-- In front of its end an element is open as the innermost, if its children come back. -/
theorem tags_of_returns {p q : Progress ρ} {t : Tag}
    (h : Returns { p with content := p.content.openTag t } q) :
    q.content.tags = t :: p.content.tags := h.tags.trans (Content.tags_openTag _ _)

variable [VoiceRegistry ρ]

/-- A tag that is entered opens nothing, and a start mark drops what is below the open elements. -/
theorem tags_enter (s : Scene) (t : Tag) (p : Progress ρ) :
    (p.enter s t).content.tags = p.content.tags := by
  rcases content_enter s t p with hc | hc <;> rw [hc]
  exact Content.tags_reset _

/-! ## 3. The induction over the tree -/

mutual

/-- Visiting a node comes back. -/
theorem returns_visit (s : Scene) : ∀ (n : Node) (p : Progress ρ), p.Returns (p.visit s n)
  | .text text, p => by
    rcases Bool.eq_false_or_eq_true p.ended with he | he
    · rw [visit_of_ended he]
      exact .refl p
    · rw [visit_of_text he]
      exact ⟨Content.tags_addText _ _, rfl⟩
  | .element tag children, p => by
    rcases Bool.eq_false_or_eq_true p.ended with he | he
    · rw [visit_of_ended he]
      exact .refl p
    cases tag.kind with
    | declaration hd =>
      rw [visit_of_declaration children hd]
      exact .refl p
    | plain hd hs =>
      rw [visit_of_plain children he hd hs]
      have hinner := returns_visitAll s children { p with content := p.content.openTag tag }
      exact ⟨Content.tags_close_of_tags (tags_of_returns hinner) (Content.tags_ne_nil _),
        hinner.voice⟩
    | clip hd hs hc =>
      rw [visit_of_clip children he hd hs hc]
      exact (Returns.flush p).trans (.clip s tag p.flush)
    | scope hd hs hc =>
      rw [visit_of_scope children he hd hs hc]
      -- the voice that a tag gives is not looked at: the one in front of it is put back
      have htags : (p.flush.enter s tag).content.tags = p.content.tags :=
        (tags_enter s tag p.flush).trans (Returns.flush p).tags
      refine ⟨?_, (Returns.flush p).voice⟩
      dsimp only
      split
      · exact htags
      · exact ((returns_visitAll s children _).trans (.flush _)).tags.trans htags

/-- So does visiting nodes that stand side by side. -/
theorem returns_visitAll (s : Scene) : ∀ (ns : List Node) (p : Progress ρ),
    p.Returns (p.visitAll s ns)
  | [], p => by
    rw [visitAll]
    exact .refl p
  | n :: ns, p => by
    rw [visitAll]
    exact (returns_visit s n p).trans (returns_visitAll s ns _)

end

end Progress

/-! ## 4. The whole walk -/

variable [VoiceRegistry ρ]

/-- **The walk is bracketed.**  Whatever the state in which a node is visited, and wherever in it the
walk ends or starts again, the elements that are open behind it and the voice are those in front of it.  An
element is closed when it is itself the innermost that is open and another one is around it.  And when all
of a document has been visited, before and after its last section is taken, only the root is open. -/
theorem bracketed_visit (s : Scene) :
    (∀ (n : Node) (p : Progress ρ),
      (p.visit s n).content.tags = p.content.tags ∧ (p.visit s n).voice = p.voice) ∧
    (∀ (t : Tag) (children : List Node) (p : Progress ρ),
      let q := Progress.visitAll s children { p with content := p.content.openTag t }
      q.content.tags = t :: p.content.tags ∧ 2 ≤ q.content.depth ∧
        q.content.close.tags = p.content.tags) ∧
    ∀ (c : Config) (root : Element) (registry : ρ),
      (Progress.visitAll s root.children (.start s c root.tag registry)).content.depth = 1 ∧
        (traverse s c root registry).content.depth = 1 ∧
        (traverse s c root registry).content.tags = [root.tag] := by
  refine ⟨fun n p => ?visit, fun t children p => ?close, fun c root registry => ?finish⟩
  case visit =>
    have h := Progress.returns_visit s n p
    exact ⟨h.tags, h.voice⟩
  case close =>
    have htags := Progress.tags_of_returns
      (Progress.returns_visitAll s children { p with content := p.content.openTag t })
    refine ⟨htags, ?_, Content.tags_close_of_tags htags (Content.tags_ne_nil _)⟩
    have hpos : 0 < p.content.tags.length := List.length_pos_iff.mpr (Content.tags_ne_nil _)
    rw [Content.depth_eq_length_tags, htags, List.length_cons]
    omega
  case finish =>
    have hwalk := Progress.returns_visitAll s root.children (.start s c root.tag registry)
    have hdone := hwalk.trans (.flush _)
    refine ⟨?_, ?_, hdone.tags⟩
    · rw [Content.depth_eq_length_tags, hwalk.tags]
      rfl
    · rw [Content.depth_eq_length_tags]
      exact congrArg List.length hdone.tags

/-- A voice in a paragraph, a start mark in the voice and the end mark behind it: the paragraph is still
open, and the outer voice speaks. -/
example :
    let s : Scene := ⟨{ Declarations.empty with startMark := some "a", endMark := some "z" },
      Path.ofString "/", fun _ => false, false⟩
    let p : Progress (String → RegistryAnswer) :=
      .start s .standard ⟨"speak", []⟩ fun _ => .ok (some .other)
    let q := { p with content := p.content.openTag ⟨"p", []⟩ }.visit s <|
      .element ⟨"voice", [("name", "Bob")]⟩ [.text "One.", .element ⟨"mark", [("name", "a")]⟩ [],
        .element ⟨"s", []⟩ [.text "Two.", .element ⟨"mark", [("name", "z")]⟩ []], .text "Three."]
    q.ended = true ∧ q.content.tags = [⟨"p", []⟩, ⟨"speak", []⟩] ∧
      q.voice = Config.standardVoice ∧
      q.plan.sections.map Section.voice? = [some "Bob"] := by
  decide +kernel

end LecturePlan

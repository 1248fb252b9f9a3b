import LecturePlan.Proofs.Compile.Invariant
/-!
# Two walks side by side

Two walks through one document are in step: both go into the same elements and come to the same tags,
unless one has ended and the other has not.  So a relation between their states holds at the end if it
holds at the start and every step taken by both keeps it (`KeptBoth.visitAll`).  The walks may have
registries of different types.
-/

namespace LecturePlan

open LecturePlan.Markup

variable {ρ σ : Type} [VoiceRegistry ρ] [VoiceRegistry σ]

/-- **The steps of two walks keep a relation** between their states. -/
structure KeptBoth (s : Scene) (I : Progress ρ → Progress σ → Prop) : Prop where
  /-- They end at the same place. -/
  ended {p : Progress ρ} {q : Progress σ} : I p q → q.ended = p.ended
  text {p : Progress ρ} {q : Progress σ} (text : String) : I p q →
    I { p with content := p.content.addText text } { q with content := q.content.addText text }
  openTag {p : Progress ρ} {q : Progress σ} (t : Tag) : I p q →
    I { p with content := p.content.openTag t } { q with content := q.content.openTag t }
  close {p : Progress ρ} {q : Progress σ} : I p q →
    I { p with content := p.content.close } { q with content := q.content.close }
  flush {p : Progress ρ} {q : Progress σ} : I p q → I p.flush q.flush
  clip {p : Progress ρ} {q : Progress σ} (t : Tag) : I p q → I (p.clip s t) (q.clip s t)
  mark {p : Progress ρ} {q : Progress σ} (t : Tag) : I p q → I (p.mark s t) (q.mark s t)
  voiceTag {p : Progress ρ} {q : Progress σ} (t : Tag) : I p q → I (p.voiceTag t) (q.voiceTag t)
  image {p : Progress ρ} {q : Progress σ} (t : Tag) : I p q → I (p.image s t) (q.image s t)
  slide {p : Progress ρ} {q : Progress σ} (t : Tag) : I p q → I (p.slide s t) (q.slide s t)
  /-- Behind a tag the voices that were in force before it are in force again. -/
  leave {p outer : Progress ρ} {q outer' : Progress σ} : I p q → I outer outer' →
    I { p with voice := outer.voice } { q with voice := outer'.voice }

namespace KeptBoth

variable {s : Scene} {I : Progress ρ → Progress σ → Prop}

theorem enter (k : KeptBoth s I) {p : Progress ρ} {q : Progress σ} (t : Tag) (h : I p q) :
    I (p.enter s t) (q.enter s t) := by
  unfold Progress.enter
  split
  · exact k.mark t h
  · split
    · exact k.voiceTag t h
    · split
      · exact k.image t h
      · split
        · exact k.slide t h
        · exact h

mutual

/-- Visiting a node keeps the relation. -/
theorem visit (k : KeptBoth s I) : ∀ (n : Node) {p : Progress ρ} {q : Progress σ},
    I p q → I (p.visit s n) (q.visit s n)
  | .text text, p, q, h => by
    have hended := k.ended h
    rcases Bool.eq_false_or_eq_true p.ended with he | he <;> rw [he] at hended
    · rwa [Progress.visit_of_ended he, Progress.visit_of_ended hended]
    · rw [Progress.visit_of_text he, Progress.visit_of_text hended]
      exact k.text text h
  | .element tag children, p, q, h => by
    have hended := k.ended h
    rcases Bool.eq_false_or_eq_true p.ended with he | he <;> rw [he] at hended
    · rwa [Progress.visit_of_ended he, Progress.visit_of_ended hended]
    cases tag.kind with
    | declaration hd =>
      rwa [Progress.visit_of_declaration children hd, Progress.visit_of_declaration children hd]
    | plain hd hs =>
      rw [Progress.visit_of_plain children he hd hs, Progress.visit_of_plain children hended hd hs]
      exact k.close (visitAll k children (k.openTag tag h))
    | clip hd hs hc =>
      rw [Progress.visit_of_clip children he hd hs hc,
        Progress.visit_of_clip children hended hd hs hc]
      exact k.clip tag (k.flush h)
    | scope hd hs hc =>
      rw [Progress.visit_of_scope children he hd hs hc,
        Progress.visit_of_scope children hended hd hs hc]
      have henter := k.enter tag (k.flush h)
      refine k.leave ?_ (k.flush h)
      cases children with
      | nil => exact henter
      | cons c cs => exact k.flush (visitAll k (c :: cs) henter)

/-- So does visiting nodes that stand side by side. -/
theorem visitAll (k : KeptBoth s I) : ∀ (ns : List Node) {p : Progress ρ} {q : Progress σ},
    I p q → I (p.visitAll s ns) (q.visitAll s ns)
  | [], p, q, h => h
  | n :: ns, p, q, h => by
    rw [Progress.visitAll, Progress.visitAll]
    exact visitAll k ns (visit k n h)

end

/-- **Two whole walks.**  What holds of their starts holds of their ends. -/
theorem traverse (k : KeptBoth s I) (c : Config) (root : Element) {registry : ρ} {registry' : σ}
    (h : I (.start s c root.tag registry) (.start s c root.tag registry')) :
    I (LecturePlan.traverse s c root registry) (LecturePlan.traverse s c root registry') :=
  k.flush (k.visitAll root.children h)

end KeptBoth

end LecturePlan

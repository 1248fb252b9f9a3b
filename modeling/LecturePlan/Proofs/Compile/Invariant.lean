import LecturePlan.Proofs.Compile.Cue
import LecturePlan.Proofs.Compile.Steps
/-!
# Invariants of the walk

A relation between the place where the walk stands, the cues it has come across, and its state holds
after the walk if it holds at the start and every step keeps it.  A step is what the walk does at one
node before or after the children: text is added, an element is opened or closed, a section is ended,
a clip is taken, a splitting tag is entered or left.  `Kept` lists these steps, and `Kept.visitAll` is
the one induction over the tree that all invariants of the walk share.

The cues that are skipped behind the end mark count as come across, so that at the end of the walk the
relation speaks of all cues of the document (`Kept.traverse`).
-/

namespace LecturePlan

open LecturePlan.Markup

variable {ρ : Type}

/-! ## 1. The end of a section -/

namespace Progress

/-- Ending a section that has no text, or behind the end mark, does nothing. -/
theorem flush_eq_self {p : Progress ρ} (h : p.ended = true ∨ p.content.hasText = false) :
    p.flush = p := by
  unfold flush
  rw [if_pos]
  rcases h with h | h <;> simp [h]

/-- Ending a section that has text adds it and clears the content. -/
theorem flush_eq {p : Progress ρ} (he : p.ended = false) (ht : p.content.hasText = true) :
    p.flush = { p.addSection (.speech p.frame p.voice p.content.render) with
      content := p.content.reset } := by
  unfold flush
  rw [if_neg]
  · rfl
  · simp [he, ht]

theorem flush_cases (p : Progress ρ) :
    (p.ended = true ∨ p.content.hasText = false) ∧ p.flush = p ∨
      p.ended = false ∧ p.content.hasText = true ∧
        p.flush = { p.addSection (.speech p.frame p.voice p.content.render) with
          content := p.content.reset } := by
  cases he : p.ended with
  | true => exact .inl ⟨.inl rfl, flush_eq_self (.inl he)⟩
  | false =>
    cases ht : p.content.hasText with
    | false => exact .inl ⟨.inr rfl, flush_eq_self (.inr ht)⟩
    | true => exact .inr ⟨rfl, rfl, flush_eq he ht⟩

@[simp] theorem ended_flush (p : Progress ρ) : p.flush.ended = p.ended := by
  rcases flush_cases p with ⟨-, h⟩ | ⟨-, -, h⟩ <;> rw [h]
  rfl

/-- Before the end mark no text is left when a section has been ended. -/
theorem hasText_flush {p : Progress ρ} (he : p.ended = false) : p.flush.content.hasText = false := by
  rcases flush_cases p with ⟨h | h, hf⟩ | ⟨-, -, hf⟩
  · rw [he] at h
    cases h
  · rw [hf]
    exact h
  · rw [hf]
    exact Content.hasText_reset p.content

/-- When a section has been ended no text is left, or it is behind the end mark. -/
theorem flushed_flush (p : Progress ρ) : p.flush.ended = true ∨ p.flush.content.hasText = false := by
  cases he : p.ended with
  | true => exact .inl ((ended_flush p).trans he)
  | false => exact .inr (hasText_flush he)

end Progress

/-! ## 2. What a visit does -/

variable [VoiceRegistry ρ]

namespace Progress

section Visit

variable {s : Scene} {p : Progress ρ} {tag : Tag} (children : List Node)

/-- Behind the end mark nothing happens. -/
theorem visit_of_ended (he : p.ended = true) (n : Node) : p.visit s n = p := by
  cases n with
  | text text => rw [visit, if_pos he]
  | element tag children => rw [visit, if_pos (by rw [he, Bool.true_or])]

theorem visit_of_text (he : p.ended = false) (text : String) :
    p.visit s (.text text) = { p with content := p.content.addText text } := by
  rw [visit, if_neg (by rw [he]; exact Bool.false_ne_true)]

theorem visit_of_declaration (hd : isDeclaration tag.name = true) :
    p.visit s (.element tag children) = p := by
  rw [visit, if_pos (by rw [hd, Bool.or_true])]

theorem visit_of_plain (he : p.ended = false) (hd : isDeclaration tag.name = false)
    (hs : isSplitting tag.name = false) :
    p.visit s (.element tag children) =
      let q := visitAll s children { p with content := p.content.openTag tag }
      { q with content := q.content.close } := by
  rw [visit, if_neg (by simp [he, hd]), if_pos (by simp [hs])]

theorem visit_of_clip (he : p.ended = false) (hd : isDeclaration tag.name = false)
    (hs : isSplitting tag.name = true) (hc : isClip tag.name = true) :
    p.visit s (.element tag children) = p.flush.clip s tag := by
  rw [visit, if_neg (by simp [he, hd]), if_neg (by simp [hs]), if_pos hc]

theorem visit_of_scope (he : p.ended = false) (hd : isDeclaration tag.name = false)
    (hs : isSplitting tag.name = true) (hc : isClip tag.name = false) :
    p.visit s (.element tag children) =
      let q := p.flush.enter s tag
      { (if children.isEmpty then q else (visitAll s children q).flush) with
        voice := p.flush.voice } := by
  rw [visit, if_neg (by simp [he, hd]), if_neg (by simp [hs]), if_neg (by simp [hc])]

end Visit

end Progress

/-! ## 3. Steps -/

/-- **The steps of the walk keep a relation.**  `around` are the tags of the elements around the place
of the walk from the inside out, and `seen` the cues in front of it. -/
structure Kept (s : Scene) (I : List Tag → List Cue → Progress ρ → Prop) : Prop where
  /-- Behind the end mark cues pass and nothing happens. -/
  pass {around : List Tag} {seen : List Cue} {p : Progress ρ} (c : Cue) :
    I around seen p → p.ended = true → I around (seen ++ [c]) p
  text {around : List Tag} {seen : List Cue} {p : Progress ρ} (text : String) :
    I around seen p → p.ended = false →
      I around (seen ++ [.text around text]) { p with content := p.content.addText text }
  openTag {around : List Tag} {seen : List Cue} {p : Progress ρ} {t : Tag} :
    I around seen p → isSplitting t.name = false →
      I (t :: around) seen { p with content := p.content.openTag t }
  close {around : List Tag} {seen : List Cue} {p : Progress ρ} {t : Tag} :
    I (t :: around) seen p → isSplitting t.name = false →
      I around seen { p with content := p.content.close }
  flush {around : List Tag} {seen : List Cue} {p : Progress ρ} :
    I around seen p → I around seen p.flush
  /-- A clip is taken when the section in progress has been ended. -/
  clip {around : List Tag} {seen : List Cue} {p : Progress ρ} {t : Tag} :
    I around seen p → p.ended = false → p.content.hasText = false → isClip t.name = true →
      I around (seen ++ [.tag around t]) (p.clip s t)
  /-- So is any other splitting tag. -/
  enter {around : List Tag} {seen : List Cue} {p : Progress ρ} {t : Tag} :
    I around seen p → p.ended = false → p.content.hasText = false → isSplitting t.name = true →
      isClip t.name = false → I (t :: around) (seen ++ [.tag around t]) (p.enter s t)
  /-- When the last section in the tag has been ended, the voice that was in force before the tag is in
  force again. -/
  leave {around : List Tag} {seen before : List Cue} {p outer : Progress ρ} {t : Tag} :
    I around before outer → I (t :: around) seen p → isSplitting t.name = true →
      p.ended = true ∨ p.content.hasText = false →
      I around seen { p with voice := outer.voice }

/-! ## 4. The induction over the tree -/

namespace Kept

variable {s : Scene} {I : List Tag → List Cue → Progress ρ → Prop}

theorem passAll (k : Kept s I) {around : List Tag} {p : Progress ρ} (he : p.ended = true) :
    ∀ (cues : List Cue) {seen : List Cue}, I around seen p → I around (seen ++ cues) p
  | [], seen, h => by rwa [List.append_nil]
  | c :: cues, seen, h => by
    rw [← List.singleton_append, ← List.append_assoc]
    exact passAll k he cues (k.pass c h he)

mutual

/-- Visiting a node keeps the relation, and adds the cues of the node to those in front. -/
theorem visit (k : Kept s I) : ∀ (n : Node) {around : List Tag} {seen : List Cue} {p : Progress ρ},
    I around seen p → I around (seen ++ n.cues around) (p.visit s n)
  | .text text, around, seen, p, h => by
    rcases Bool.eq_false_or_eq_true p.ended with he | he
    · rw [Progress.visit_of_ended he]
      exact k.passAll he _ h
    · rw [Progress.visit_of_text he]
      exact k.text text h he
  | .element tag children, around, seen, p, h => by
    rcases Bool.eq_false_or_eq_true p.ended with he | he
    · rw [Progress.visit_of_ended he]
      exact k.passAll he _ h
    have hf : I around seen p.flush := k.flush h
    have hfe : p.flush.ended = false := (Progress.ended_flush p).trans he
    have hft : p.flush.content.hasText = false := Progress.hasText_flush he
    cases tag.kind with
    | declaration hd =>
      rw [cues_of_declaration around children hd, Progress.visit_of_declaration children hd,
        List.append_nil]
      exact h
    | plain hd hs =>
      rw [cues_of_plain around children hd hs, Progress.visit_of_plain children he hd hs]
      exact k.close (visitAll k children (k.openTag h hs)) hs
    | clip hd hs hc =>
      rw [cues_of_clip around children hd hs hc, Progress.visit_of_clip children he hd hs hc]
      exact k.clip hf hfe hft hc
    | scope hd hs hc =>
      rw [cues_of_scope around children hd hs hc, Progress.visit_of_scope children he hd hs hc]
      have henter := k.enter hf hfe hft hs hc
      cases children with
      | nil => exact k.leave hf henter hs (.inr (Progress.hasText_enter s tag hft))
      | cons c cs =>
        have hinner := visitAll k (c :: cs) henter
        rw [List.append_assoc, List.singleton_append] at hinner
        exact k.leave hf (k.flush hinner) hs (Progress.flushed_flush _)

/-- So does visiting nodes that stand side by side. -/
theorem visitAll (k : Kept s I) :
    ∀ (ns : List Node) {around : List Tag} {seen : List Cue} {p : Progress ρ},
      I around seen p → I around (seen ++ cuesAll around ns) (p.visitAll s ns)
  | [], around, seen, p, h => by
    rw [cuesAll, List.append_nil, Progress.visitAll]
    exact h
  | n :: ns, around, seen, p, h => by
    rw [cuesAll, Progress.visitAll, ← List.append_assoc]
    exact visitAll k ns (visit k n h)

end

/-- **The whole walk.**  What holds at the start and is kept by every step holds at the end, of all
cues of the document. -/
theorem traverse (k : Kept s I) (c : Config) (root : Element) (registry : ρ)
    (h : I [] [] (.start s c root.tag registry)) :
    I [] root.cues (LecturePlan.traverse s c root registry) :=
  k.flush (k.visitAll root.children h)

end Kept

end LecturePlan

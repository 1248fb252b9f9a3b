import LecturePlan.Proofs.Compile.Ledger
/-!
# What is said

Sections cut the content of a lecture wherever a splitting tag stands, also inside of other elements.
This module proves that nothing is lost by it.  The documents of the speech sections are trees whose
text leaves, read one tree after the other, are the text that is heard: in the order of the script,
each leaf once, and each below the elements that it stands in there.

The invariant of the walk (`Ledger.Speaks`) counts the text that waits in the content as the end of
what has been said, so the end of a section moves leaves from one to the other and the start mark
empties both.
-/

namespace LecturePlan

open LecturePlan.Markup

/-- The document of a section is what is written of the tree of its content. -/
theorem Content.render_eq (c : Content) : c.render = tidyString c.tree.toString := by
  rw [render, tidyString, Element.toString, String.toList_ofList]

/-! ## 1. What has been said -/

/-- **What a ledger says.**  `trees` are the trees that its speech sections were written from. -/
structure Ledger.Speaks (d : Declarations) (root : Tag) (seen : List Cue) (trees : List Element)
    (l : Ledger) : Prop where
  written : l.sections.filterMap Section.content? = trees.map fun e => tidyString e.toString
  nonempty : ∀ e ∈ trees, e.leaves ≠ []
  /-- What is in the sections, and then what waits, is the text that is heard. -/
  leaves : trees.flatMap Element.leaves ++ l.content.leaves = heardText d root seen

namespace Ledger.Speaks

variable {d : Declarations} {root : Tag} {around : List Tag} {seen : List Cue} {trees : List Element}
  {l : Ledger}

theorem start : (Ledger.start root).Speaks d root [] [] where
  written := rfl
  nonempty e he := absurd he List.not_mem_nil
  leaves := by
    rw [heardText, heard_nil]
    rfl

theorem pass (h : l.Speaks d root seen trees) (ht : l.Tracks d root around seen)
    (he : l.ended = true) (c : Cue) : l.Speaks d root (seen ++ [c]) trees where
  written := h.written
  nonempty := h.nonempty
  leaves := by
    rw [h.leaves, heardText, heardText, heard_of_ended (ht.ended ▸ he)]

/-- A tag that is heard after the others says nothing. -/
theorem append_tag (h : l.Speaks d root seen trees) {t : Tag}
    (hc : heard d (seen ++ [.tag around t]) = heard d seen ++ [.tag around t]) :
    l.Speaks d root (seen ++ [.tag around t]) trees where
  written := h.written
  nonempty := h.nonempty
  leaves := by
    rw [h.leaves, heardText, heardText, hc, List.filterMap_append]
    exact (List.append_nil _).symm

/-- Text waits below the elements that are open, and these are the ones around it. -/
theorem addText (h : l.Speaks d root seen trees) (ht : l.Tracks d root around seen)
    (he : l.ended = false) (text : String) :
    Ledger.Speaks d root (seen ++ [.text around text]) trees
      { l with content := l.content.addText text } where
  written := h.written
  nonempty := h.nonempty
  leaves := by
    have hheard : heardText d root (seen ++ [.text around text]) =
        heardText d root seen ++ [(nesting root around, text)] := by
      rw [heardText, ht.heard_other he (c := .text around text) rfl, List.filterMap_append]
      rfl
    rw [hheard, ← h.leaves, Content.leaves_addText, ht.tags, List.append_assoc]

/-- The books may change where they say nothing. -/
theorem congr {l' : Ledger} (h : l.Speaks d root seen trees)
    (hs : l'.sections.filterMap Section.content? = l.sections.filterMap Section.content?)
    (hc : l'.content.leaves = l.content.leaves) : l'.Speaks d root seen trees :=
  ⟨hs.trans h.written, h.nonempty, hc ▸ h.leaves⟩

/-- The end of a section: what waited is in the last tree. -/
theorem flush (h : l.Speaks d root seen trees) (ht : l.content.hasText = true) (frame : Frame)
    (voice : String) :
    Ledger.Speaks d root seen (trees ++ [l.content.tree])
      { l.add (.speech frame voice l.content.render) with content := l.content.reset } where
  written := by
    simp [Ledger.add, Section.content?, h.written, Content.render_eq]
  nonempty e he := by
    rcases List.mem_append.mp he with he | he
    · exact h.nonempty e he
    · rw [List.mem_singleton.mp he, Content.leaves_tree]
      exact (Content.hasText_iff_leaves _).mp ht
  leaves := by
    rw [List.flatMap_append, List.flatMap_singleton, Content.leaves_tree, Content.leaves_reset,
      List.append_nil, h.leaves]

/-- A section that is no speech says nothing. -/
theorem add (h : l.Speaks d root seen trees) {kind : SectionKind}
    (hkind : (⟨l.nextId, kind⟩ : Section).content? = none) :
    (l.add kind).Speaks d root seen trees := by
  refine h.congr ?_ rfl
  have hnone : [(⟨l.nextId, kind⟩ : Section)].filterMap Section.content? = [] :=
    List.filterMap_cons_none hkind
  rw [Ledger.add, List.filterMap_append, hnone, List.append_nil]

/-- A mark says nothing, and the start mark takes back what was said. -/
theorem setMark (h : l.Speaks d root seen trees) (ht : l.Tracks d root around seen)
    (he : l.ended = false) {t : Tag} {m : Mark} (hm : t.mark? = some m) :
    ∃ trees, (l.setMark d m).Speaks d root (seen ++ [.tag around t]) trees := by
  rcases ht.setMark_cases he (c := .tag around t) hm with
    ⟨-, hheard, heq⟩ | ⟨-, hheard, heq⟩ | ⟨-, -, hheard, heq⟩
  · rw [heq]
    exact ⟨trees, h.append_tag hheard⟩
  · rw [heq]
    refine ⟨[], rfl, fun e he' => absurd he' List.not_mem_nil, ?_⟩
    rw [heardText, hheard]
    exact Content.leaves_reset _
  · rw [heq]
    exact ⟨trees, (h.append_tag hheard).congr rfl rfl⟩

end Ledger.Speaks

/-! ## 2. What the walk says -/

/-- What is said is what is heard. -/
theorem keptBooks_speaks (d : Declarations) (root : Tag) :
    KeptBooks d root fun seen l => ∃ trees, l.Speaks d root seen trees where
  pass c ht := fun ⟨trees, h⟩ he => ⟨trees, h.pass ht he c⟩
  text text ht := fun ⟨trees, h⟩ he => ⟨trees, h.addText ht he text⟩
  openTag _ := fun ⟨trees, h⟩ => ⟨trees, h.congr rfl (Content.leaves_openTag _ _)⟩
  close := fun ⟨trees, h⟩ => ⟨trees, h.congr rfl (Content.leaves_close _)⟩
  flush frame voice _ := fun ⟨_, h⟩ _ htext => ⟨_, h.flush htext frame voice⟩
  add _ := fun ⟨trees, h⟩ _ hkind => ⟨trees, h.add hkind⟩
  other ht := fun ⟨trees, h⟩ he hm => ⟨trees, h.append_tag (ht.heard_other he hm)⟩
  setMark ht := fun ⟨_, h⟩ he hm => h.setMark ht he hm

variable {ρ : Type} [VoiceRegistry ρ]

/-- No text is left over when the walk is done. -/
theorem hasText_traverse (s : Scene) (c : Config) (root : Element) (registry : ρ) :
    (traverse s c root registry).content.hasText = false := by
  cases he : (traverse s c root registry).ended with
  | true => exact ((kept_tracks s root.tag).traverse c root registry .start).silent he
  | false => exact Progress.hasText_flush ((Progress.ended_flush _).symm.trans he)

/-- **The speech of a plan is the text that is heard.**  The documents of the speech sections are
those of trees that all have text, and the leaves of these trees, one tree after the other, are the
text leaves that are heard, each below the elements around it that do not split and the root. -/
theorem speech_eq_heardText (s : Scene) (c : Config) (root : Element) (registry : ρ) :
    ∃ trees : List Element,
      (traverse s c root registry).plan.pruneChapters.speech =
          trees.map (fun e => tidyString e.toString) ∧
        (∀ e ∈ trees, e.leaves ≠ []) ∧
        trees.flatMap Element.leaves = heardText s.declarations root.tag root.cues := by
  obtain ⟨-, trees, h⟩ :=
    (keptBooks_speaks s.declarations root.tag).kept.traverse c root registry ⟨.start, [], .start⟩
  refine ⟨trees, h.written, h.nonempty, ?_⟩
  rw [← h.leaves]
  have hnil : (traverse s c root registry).ledger.content.leaves = [] :=
    Content.leaves_eq_nil (hasText_traverse s c root registry)
  rw [hnil, List.append_nil]

end LecturePlan

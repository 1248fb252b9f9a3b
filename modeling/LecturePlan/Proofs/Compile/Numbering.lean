import LecturePlan.Proofs.Compile.Ledger
import Mathlib.Data.List.Basic
/-!
# How sections, marks and chapters are numbered

One counter numbers the sections, and a mark stands for the section that begins next.  The section
list, the table of marks and the chapters are written by different tags, in any order and nesting, and
the start mark throws all three away.  This module proves that they stay in step: sections are
numbered from one without gaps, a mark lies between the first section and the place behind the last,
the start mark at the one and the end mark at the other, and the chapters are the marks with a title
that a section follows.

`Ledger.Numbers` is what the walk keeps, and `Plan.Numbered` what it comes to when chapters that no
section follows are dropped.
-/

namespace LecturePlan

open LecturePlan.Markup

/-! ## 1. Chapters of marks -/

/-- The chapter of a mark, if it has a title. -/
def Mark.chapter? (marks : Table Nat) (m : Mark) : Option Chapter :=
  m.title.bind fun title => (marks.get? m.name).map fun id => ⟨title, m.name, id⟩

theorem Mark.chapter?_eq_some {marks : Table Nat} {m : Mark} {chapter : Chapter}
    (h : m.chapter? marks = some chapter) :
    m.title = some chapter.title ∧ m.name = chapter.markName ∧
      marks.get? m.name = some chapter.sectionId := by
  unfold chapter? at h
  cases htitle : m.title with
  | none =>
    rw [htitle] at h
    cases h
  | some title =>
    cases hid : marks.get? m.name with
    | none =>
      rw [htitle, hid] at h
      cases h
    | some id =>
      rw [htitle, hid] at h
      cases h
      exact ⟨rfl, rfl, rfl⟩

/-- A mark of another name does not move a chapter. -/
theorem Mark.chapter?_insert {marks : Table Nat} {m : Mark} {name : String} (h : m.name ≠ name)
    (id : Nat) : m.chapter? (marks.insert name id) = m.chapter? marks := by
  rw [chapter?, Table.get?_insert, if_neg h]
  rfl

theorem Mark.filterMap_chapter?_insert_self (marks : Table Nat) (m : Mark) (id : Nat) :
    [m].filterMap (Mark.chapter? (marks.insert m.name id)) =
      (m.title.map fun title => ⟨title, m.name, id⟩).toList := by
  rw [List.filterMap_cons, chapter?, Table.get?_insert, if_pos rfl]
  cases m.title <;> rfl

/-! ## 2. What the walk keeps -/

/-- **How a ledger is numbered** when some marks have been set, of each name the first. -/
structure Ledger.Numbers (d : Declarations) (ms : List Mark) (l : Ledger) : Prop where
  ids : l.sections.map Section.id = List.range' 1 l.sections.length
  next : l.nextId = l.sections.length + 1
  bounds : ∀ name id, l.marks.get? name = some id → 1 ≤ id ∧ id ≤ l.nextId
  first : ∀ name id, d.startMark = some name → l.marks.get? name = some id → id = 1
  last : ∀ name id, d.endMark = some name → l.marks.get? name = some id → id = l.nextId
  chapters : l.chapters = ms.filterMap (Mark.chapter? l.marks)
  sorted : l.chapters.Pairwise fun a b => a.sectionId ≤ b.sectionId

namespace Ledger.Numbers

variable {d : Declarations} {ms : List Mark} {l : Ledger}

/-- A ledger in which nothing is booked counts from one. -/
theorem nil (ended : Bool) (content : Content) :
    Ledger.Numbers d [] ⟨ended, 1, content, [], ∅, []⟩ where
  ids := rfl
  next := rfl
  bounds name id h := by simp at h
  first name id _ h := by simp at h
  last name id _ h := by simp at h
  chapters := rfl
  sorted := List.Pairwise.nil

/-- What is collected does not matter. -/
theorem collect (h : l.Numbers d ms) (content : Content) : Ledger.Numbers d ms { l with content } :=
  ⟨h.ids, h.next, h.bounds, h.first, h.last, h.chapters, h.sorted⟩

/-- A chapter is where its mark is. -/
theorem get?_of_mem_chapters (h : l.Numbers d ms) {chapter : Chapter} (hc : chapter ∈ l.chapters) :
    l.marks.get? chapter.markName = some chapter.sectionId := by
  rw [h.chapters, List.mem_filterMap] at hc
  obtain ⟨m, -, hm⟩ := hc
  obtain ⟨-, hname, hid⟩ := Mark.chapter?_eq_some hm
  exact hname ▸ hid

/-- A section gets the next id, unless the end mark has been set: no section begins behind it. -/
theorem add (h : l.Numbers d ms)
    (hend : ∀ name, l.marks.contains name = true → d.endMark ≠ some name) (kind : SectionKind) :
    (l.add kind).Numbers d ms where
  ids := by
    rw [Ledger.add, List.map_append, List.length_append, List.length_singleton, h.ids, h.next,
      List.range'_concat, Nat.one_mul, Nat.add_comm 1]
    rfl
  next := by simp [Ledger.add, h.next]
  bounds name id hid := by
    have hle := h.bounds name id hid
    exact ⟨hle.1, Nat.le_succ_of_le hle.2⟩
  first := h.first
  last name id hname hid := by
    have htaken : l.marks.contains name = true := by
      rw [Table.contains, show l.marks.get? name = some id from hid]
      rfl
    exact absurd hname (hend name htaken)
  chapters := h.chapters
  sorted := h.sorted

/-- A new mark stands at the next section, behind all marks that are set. -/
theorem bookMark (h : l.Numbers d ms) {m : Mark} (hnew : ∀ m' ∈ ms, m'.name ≠ m.name)
    (hstart : d.startMark = some m.name → l.nextId = 1)
    (hend : ∀ name, l.marks.contains name = true → d.endMark ≠ some name) :
    (l.bookMark d m).Numbers d (ms ++ [m]) where
  ids := h.ids
  next := h.next
  bounds name id hid := by
    have hnext : l.nextId = l.sections.length + 1 := h.next
    rw [Ledger.bookMark, Table.get?_insert] at hid
    split at hid
    · cases hid
      exact ⟨hnext ▸ Nat.succ_le_succ (Nat.zero_le _), Nat.le_refl _⟩
    · exact h.bounds name id hid
  first name id hname hid := by
    rw [Ledger.bookMark, Table.get?_insert] at hid
    split at hid
    · next hself =>
      rw [← Option.some.inj hid]
      exact hstart (hself ▸ hname)
    · exact h.first name id hname hid
  last name id hname hid := by
    rw [Ledger.bookMark, Table.get?_insert] at hid
    split at hid
    · exact (Option.some.inj hid).symm
    · have htaken : l.marks.contains name = true := by
        rw [Table.contains, hid]
        rfl
      exact absurd hname (hend name htaken)
  chapters := by
    have hold : ms.filterMap (Mark.chapter? (l.marks.insert m.name l.nextId)) = l.chapters := by
      rw [h.chapters]
      exact List.filterMap_congr fun m' hm' => Mark.chapter?_insert (hnew m' hm') _
    rw [Ledger.bookMark, List.filterMap_append, hold, Mark.filterMap_chapter?_insert_self]
  sorted := by
    refine List.pairwise_append.mpr ⟨h.sorted, ?_, fun a ha b hb => ?_⟩
    · cases m.title <;> simp
    · obtain ⟨title, -, rfl⟩ := by simpa using hb
      exact (h.bounds _ _ (h.get?_of_mem_chapters ha)).2

/-! ### Among the cues -/

variable {root : Tag} {around : List Tag} {seen : List Cue}

/-- A cue that is no mark sets none. -/
theorem other (h : l.Numbers d (firstMarks (heard d seen))) (ht : l.Tracks d root around seen)
    (he : l.ended = false) {c : Cue} (hc : c.mark? = none) :
    l.Numbers d (firstMarks (heard d (seen ++ [c]))) := by
  rw [ht.heard_other he hc, firstMarks_append_singleton, addMark, hc]
  exact h

/-- Setting a mark: if its name is taken nothing is booked, and the start mark is booked as the first
of all. -/
theorem setMark (h : l.Numbers d (firstMarks (heard d seen))) (ht : l.Tracks d root around seen)
    (he : l.ended = false) {c : Cue} {m : Mark} (hc : c.mark? = some m) :
    (l.setMark d m).Numbers d (firstMarks (heard d (seen ++ [c]))) := by
  have hany : (firstMarks (heard d seen)).any (fun m' => m'.name == m.name) =
      l.marks.contains m.name := by
    rw [any_firstMarks, ← ht.marks]
  rcases ht.setMark_cases he hc with ⟨hm, hheard, heq⟩ | ⟨-, hheard, heq⟩ | ⟨hm, hs, hheard, heq⟩
  · rw [heq, hheard, firstMarks_append_singleton, addMark, hc]
    dsimp only
    rw [if_pos (hany.trans hm)]
    exact h
  · have hfirst : firstMarks [c] = [] ++ [m] := by
      rw [firstMarks, List.foldl_cons, List.foldl_nil, addMark, hc]
      rfl
    rw [heq, hheard, hfirst]
    exact (nil l.ended l.content.reset).bookMark (by simp) (fun _ => rfl) (by simp [Table.contains])
  · have hnew : (firstMarks (heard d seen)).any (fun m' => m'.name == m.name) = false :=
      hany.trans hm
    rw [heq, hheard, firstMarks_append_singleton, addMark, hc]
    dsimp only
    rw [if_neg (by simp [hnew])]
    refine h.bookMark (fun m' hm' => ?_) (fun hname => absurd hname hs)
      fun name htaken => ht.ne_end_of_taken he htaken
    simpa using List.any_eq_false.mp hnew m' hm'

end Ledger.Numbers

/-- The books are numbered in step with the marks that are heard. -/
theorem keptBooks_numbers (d : Declarations) (root : Tag) :
    KeptBooks d root fun seen l => l.Numbers d (firstMarks (heard d seen)) where
  pass {around seen l} c ht h he := by
    rw [heard_of_ended (ht.ended ▸ he)]
    exact h
  text {around seen l} text ht h he := (h.other ht he (c := .text around text) rfl).collect _
  openTag t h := h.collect _
  close h := h.collect _
  flush frame voice ht h he _ := (h.add (fun _ => ht.ne_end_of_taken he) _).collect _
  add ht h he _ := h.add (fun _ => ht.ne_end_of_taken he) _
  other ht h he hm := h.other ht he hm
  setMark ht h he hm := h.setMark ht he hm

/-! ## 3. Finished plans -/

/-- The chapter of a mark in a plan, if the mark has a title and a section follows it. -/
def Plan.chapter? (p : Plan) (m : Mark) : Option Chapter :=
  (m.chapter? p.marks).filter fun chapter => chapter.sectionId ≤ p.sections.length

/-- **A plan is numbered in step with some marks**, which are in document order and have names of their
own. -/
structure Plan.Numbered (d : Declarations) (ms : List Mark) (p : Plan) : Prop where
  ids : p.sections.map Section.id = List.range' 1 p.sections.length
  marks : ∀ name, p.marks.contains name = true ↔ name ∈ ms.map Mark.name
  bounds : ∀ name id, p.marks.get? name = some id → 1 ≤ id ∧ id ≤ p.sections.length + 1
  first : ∀ name id, d.startMark = some name → p.marks.get? name = some id → id = 1
  last : ∀ name id, d.endMark = some name → p.marks.get? name = some id →
    id = p.sections.length + 1 ∧ ∀ name' id', p.marks.get? name' = some id' → id' ≤ id
  chapters : p.chapters = ms.filterMap p.chapter?
  sorted : (p.chapters.map Chapter.sectionId).Pairwise (· ≤ ·)
  names : (p.chapters.map Chapter.markName).Nodup
  begun : ∀ chapter ∈ p.chapters, ∃ sec ∈ p.sections, sec.id = chapter.sectionId

/-- Sections that are numbered from one have exactly the ids up to their number. -/
theorem any_id_iff {sections : List Section}
    (h : sections.map Section.id = List.range' 1 sections.length) (id : Nat) :
    (sections.any fun sec => sec.id == id) = true ↔ 1 ≤ id ∧ id ≤ sections.length := by
  have hmem : (sections.any fun sec => sec.id == id) = true ↔ id ∈ sections.map Section.id := by
    simp
  rw [hmem, h, List.mem_range'_1, Nat.add_comm 1, Nat.lt_succ_iff]

/-- Whether a section follows a chapter is told by the chapter's number alone: it is never before the
first section. -/
theorem Plan.filter_begun {p : Plan}
    (hids : p.sections.map Section.id = List.range' 1 p.sections.length)
    (hpos : ∀ name id, p.marks.get? name = some id → 1 ≤ id) (m : Mark) :
    ((m.chapter? p.marks).filter fun chapter =>
      p.sections.any fun sec => sec.id == chapter.sectionId) = p.chapter? m := by
  unfold Plan.chapter?
  cases hc : m.chapter? p.marks with
  | none => rfl
  | some chapter =>
    have htest : (p.sections.any fun sec => sec.id == chapter.sectionId) =
        decide (chapter.sectionId ≤ p.sections.length) := by
      rw [Bool.eq_iff_iff, any_id_iff hids, decide_eq_true_iff]
      exact ⟨And.right, fun hle => ⟨hpos _ _ (Mark.chapter?_eq_some hc).2.2, hle⟩⟩
    rw [Option.filter_some, Option.filter_some, htest]

/-- Chapters that are named for their marks have the names of some of the marks, in their order. -/
theorem map_markName_sublist {f : Mark → Option Chapter}
    (hf : ∀ m chapter, f m = some chapter → m.name = chapter.markName) (ms : List Mark) :
    ((ms.filterMap f).map Chapter.markName).Sublist (ms.map Mark.name) := by
  induction ms with
  | nil => exact List.Sublist.slnil
  | cons m ms ih =>
    cases hm : f m with
    | none =>
      rw [List.filterMap_cons_none hm]
      exact ih.cons _
    | some chapter =>
      rw [List.filterMap_cons_some hm, List.map_cons, List.map_cons, hf m chapter hm]
      exact ih.cons_cons _

variable {ρ : Type}

/-- Dropping the chapters that no section follows leaves a plan that is numbered. -/
theorem Progress.numbered_pruneChapters {d : Declarations} {root : Tag} {cues : List Cue}
    {p : Progress ρ} (ht : p.ledger.Tracks d root [] cues)
    (h : p.ledger.Numbers d (firstMarks (heard d cues))) :
    p.plan.pruneChapters.Numbered d (firstMarks (heard d cues)) := by
  have hids : p.plan.sections.map Section.id = List.range' 1 p.plan.sections.length := h.ids
  have hnext : p.nextId = p.plan.sections.length + 1 := h.next
  have hbounds : ∀ name id, p.plan.marks.get? name = some id →
      1 ≤ id ∧ id ≤ p.plan.sections.length + 1 := hnext ▸ h.bounds
  have hchapters : p.plan.pruneChapters.chapters =
      (firstMarks (heard d cues)).filterMap p.plan.pruneChapters.chapter? := by
    have hall : p.plan.chapters =
        (firstMarks (heard d cues)).filterMap (Mark.chapter? p.plan.marks) := h.chapters
    rw [Plan.pruneChapters, hall, List.filter_filterMap]
    exact List.filterMap_congr fun m _ =>
      Plan.filter_begun (p := p.plan) hids (fun name id hid => (hbounds name id hid).1) m
  refine ⟨hids, fun name => ?_, hbounds, h.first, fun name id hend hid => ?_, hchapters, ?_, ?_, ?_⟩
  · have hmarks : p.plan.marks.contains name = (heard d cues).any (Cue.isMark (some name)) :=
      ht.marks name
    have hpruned : p.plan.pruneChapters.marks = p.plan.marks := rfl
    rw [hpruned, hmarks, ← any_firstMarks]
    simp
  · have hlast : id = p.plan.sections.length + 1 := hnext ▸ h.last name id hend hid
    exact ⟨hlast, fun name' id' hid' => hlast ▸ (hbounds name' id' hid').2⟩
  · rw [List.pairwise_map]
    exact h.sorted.sublist List.filter_sublist
  · rw [hchapters]
    refine (map_markName_sublist (fun m chapter hm => ?_) _).nodup (nodup_firstMarks _)
    exact (Mark.chapter?_eq_some (Option.filter_eq_some_iff.mp hm).1).2.1
  · intro chapter hc
    obtain ⟨sec, hsec, hid⟩ := List.any_eq_true.mp (List.mem_filter.mp hc).2
    exact ⟨sec, hsec, beq_iff_eq.mp hid⟩

variable [VoiceRegistry ρ]

/-- A plan that is compiled is the plan of the walk, with the warnings of measuring behind its own. -/
theorem compile_eq_ok {s : Scene} {c : Config} {root : Element} {registry : ρ} {plan : Plan}
    (h : (compile s c root registry).1 = .ok plan) :
    ∃ ws, plan = { (traverse s c root registry).plan.pruneChapters with
      warnings := (traverse s c root registry).plan.warnings ++ ws } := by
  unfold compile at h
  dsimp only at h
  split at h
  · cases h
  · dsimp only at h
    split at h
    · cases h
      exact ⟨_, rfl⟩
    · cases h

/-- **Plans are numbered in step with the marks that are heard**: as the walk leaves them, and so
as they are compiled. -/
theorem numbered_compile (s : Scene) (c : Config) (root : Element) (registry : ρ) :
    (traverse s c root registry).plan.pruneChapters.Numbered s.declarations
        (firstMarks (heard s.declarations root.cues)) ∧
      ∀ plan, (compile s c root registry).1 = .ok plan →
        plan.Numbered s.declarations (firstMarks (heard s.declarations root.cues)) := by
  have hstart : (Ledger.start root.tag).Numbers s.declarations
      (firstMarks (heard s.declarations [])) := by
    rw [heard_nil]
    exact .nil _ _
  obtain ⟨ht, hn⟩ :=
    (keptBooks_numbers s.declarations root.tag).kept.traverse c root registry ⟨.start, hstart⟩
  have h := Progress.numbered_pruneChapters ht hn
  refine ⟨h, fun plan hplan => ?_⟩
  obtain ⟨ws, rfl⟩ := compile_eq_ok hplan
  exact ⟨h.ids, h.marks, h.bounds, h.first, h.last, h.chapters, h.sorted, h.names, h.begun⟩

end LecturePlan

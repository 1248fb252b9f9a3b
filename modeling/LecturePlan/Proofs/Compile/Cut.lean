import LecturePlan.Proofs.Compile.Speech
import LecturePlan.Proofs.Compile.Window
/-!
# The windows of the sections

The speech of a plan is cut from the document in windows (`speech_eq_within`).  They lie one behind the
other, from the beginning of the document or from the start mark, and each of them begins and ends at a
place where a splitting tag is entered or left or the document ends.

The invariant of the walk (`Ledger.Cuts`) is told by the strokes that have been made: what waits in the
content is the window from the last cut on, with an open end, and a section that is cut off closes it.
-/

namespace LecturePlan

open LecturePlan.Markup

/-! ## 1. Cuts -/

/-- Whether a section may end at a place: a splitting tag is entered or left there, or the document begins or
ends. -/
def SplitsAt (strokes : List Stroke) (i : Nat) : Prop := ∃ t, strokes[i]? = some (.cut t)

/-- Whether a document is spoken from a place on: it is where the document begins, or the start mark. -/
def BeginsAt (d : Declarations) (strokes : List Stroke) (i : Nat) : Prop :=
  i = 0 ∨ ∃ t m, strokes[i]? = some (.cut (some t)) ∧ t.mark? = some m ∧ d.startMark = some m.name

/-- Whether windows lie one behind the other, from one place to another. -/
def Tiled (first : Nat) : List Window → Nat → Prop
  | [], last => first = last
  | w :: ws, last => w.start = first ∧ w.start < w.stop ∧ Tiled w.stop ws last

theorem SplitsAt.lt_length {strokes : List Stroke} {i : Nat} (h : SplitsAt strokes i) :
    i < strokes.length := by
  obtain ⟨t, ht⟩ := h
  exact (List.getElem?_eq_some_iff.mp ht).1

theorem getElem?_append_of_some {strokes : List Stroke} {i : Nat} {σ : Stroke}
    (h : strokes[i]? = some σ) (more : List Stroke) : (strokes ++ more)[i]? = some σ := by
  rw [List.getElem?_append_left (List.getElem?_eq_some_iff.mp h).1, h]

theorem SplitsAt.append {strokes : List Stroke} {i : Nat} (h : SplitsAt strokes i)
    (more : List Stroke) : SplitsAt (strokes ++ more) i := by
  obtain ⟨t, ht⟩ := h
  exact ⟨t, getElem?_append_of_some ht more⟩

theorem splitsAt_length (strokes : List Stroke) (t : Option Tag) :
    SplitsAt (strokes ++ [.cut t]) strokes.length := ⟨t, List.getElem?_concat_length⟩

theorem BeginsAt.append {d : Declarations} {strokes : List Stroke} {i : Nat}
    (h : BeginsAt d strokes i) (more : List Stroke) : BeginsAt d (strokes ++ more) i := by
  rcases h with h | ⟨t, m, ht, hm⟩
  · exact .inl h
  · exact .inr ⟨t, m, getElem?_append_of_some ht more, hm⟩

theorem Tiled.lt {first last : Nat} {ws : List Window} (h : Tiled first ws last) :
    ∀ w ∈ ws, w.start < w.stop := by
  induction ws generalizing first with
  | nil => exact fun w hw => absurd hw List.not_mem_nil
  | cons w ws ih => exact List.forall_mem_cons.mpr ⟨h.2.1, ih h.2.2⟩

theorem Tiled.concat {first last stop : Nat} {ws : List Window} (h : Tiled first ws last)
    (hstop : last < stop) : Tiled first (ws ++ [⟨last, stop⟩]) stop := by
  induction ws generalizing first with
  | nil =>
    obtain rfl : first = last := h
    exact ⟨rfl, hstop, rfl⟩
  | cons w ws ih =>
    obtain ⟨hfirst, hlt, hws⟩ := h
    exact ⟨hfirst, hlt, ih hws⟩

/-! ## 2. What the ledger has cut -/

/-- **The sections that a ledger has booked are cut from the strokes that have been made**, in the windows
from `first` to `last`, and what has been collected since is what waits. -/
structure Ledger.Cuts (d : Declarations) (root : Tag) (done : List Stroke) (first : Nat)
    (windows : List Window) (last : Nat) (l : Ledger) : Prop where
  begins : BeginsAt d done first
  tiled : Tiled first windows last
  cuts : ∀ w ∈ windows, SplitsAt done w.start ∧ SplitsAt done w.stop
  cut : SplitsAt done last
  written : l.sections.filterMap Section.content? =
    windows.map fun w => ((Content.start root).followIn w 0 done).render
  waiting : l.ended = false → ∀ stop, done.length ≤ stop →
    l.content = (Content.start root).followIn ⟨last, stop⟩ 0 done

/-- So for some windows. -/
def Ledger.IsCut (d : Declarations) (root : Tag) (done : List Stroke) (l : Ledger) : Prop :=
  ∃ first windows last, l.Cuts d root done first windows last

namespace Ledger.Cuts

variable {d : Declarations} {root : Tag} {done : List Stroke} {first last : Nat}
  {windows : List Window} {l : Ledger}

theorem start : (Ledger.start root).Cuts d root [.cut none] 0 [] 0 where
  begins := .inl rfl
  tiled := rfl
  cuts w hw := absurd hw List.not_mem_nil
  cut := ⟨none, rfl⟩
  written := rfl
  waiting _ stop hstop := by
    rw [Content.followIn_singleton _ (Nat.lt_of_lt_of_le Nat.zero_lt_one hstop)]
    rfl

/-- Strokes behind a window do not change its section. -/
theorem written_append (h : l.Cuts d root done first windows last) (more : List Stroke) :
    l.sections.filterMap Section.content? =
      windows.map fun w => ((Content.start root).followIn w 0 (done ++ more)).render := by
  rw [h.written]
  refine List.map_congr_left fun w hw => ?_
  have hstop := (h.cuts w hw).2.lt_length
  rw [Content.followIn_append_of_stop_le _ (by omega)]

/-- Further strokes, if no section is booked. -/
theorem extend (h : l.Cuts d root done first windows last) (more : List Stroke) {l' : Ledger}
    (hs : l'.sections.filterMap Section.content? = l.sections.filterMap Section.content?)
    (hw : l'.ended = false → ∀ stop, (done ++ more).length ≤ stop →
      l'.content = (Content.start root).followIn ⟨last, stop⟩ 0 (done ++ more)) :
    l'.Cuts d root (done ++ more) first windows last where
  begins := h.begins.append more
  tiled := h.tiled
  cuts w hw := ⟨(h.cuts w hw).1.append more, (h.cuts w hw).2.append more⟩
  cut := h.cut.append more
  written := hs.trans (h.written_append more)
  waiting := hw

/-- Behind the end mark strokes pass. -/
theorem pass (h : l.Cuts d root done first windows last) (he : l.ended = true)
    (more : List Stroke) : l.Cuts d root (done ++ more) first windows last := by
  refine h.extend more rfl fun he' => ?_
  rw [he] at he'
  cases he'

/-- A stroke is made in the content that waits. -/
theorem follow (h : l.Cuts d root done first windows last) (σ : Stroke) {l' : Ledger}
    (hs : l'.sections.filterMap Section.content? = l.sections.filterMap Section.content?)
    (he : l'.ended = l.ended) (hc : l'.content = l.content.follow σ) :
    l'.Cuts d root (done ++ [σ]) first windows last := by
  refine h.extend [σ] hs fun he' stop hstop => ?_
  rw [List.length_append, List.length_singleton] at hstop
  have hlast := h.cut.lt_length
  rw [hc, h.waiting (he ▸ he') stop (by omega), Content.followIn_append,
    Content.followIn_singleton _ (by dsimp only; omega), if_neg (by dsimp only; omega)]

/-- The ledger of a state that differs in what is not cut. -/
theorem congr {l' : Ledger} (h : l.Cuts d root done first windows last)
    (hs : l'.sections.filterMap Section.content? = l.sections.filterMap Section.content?)
    (he : l'.ended = false → l.ended = false) (hc : l'.content = l.content) :
    l'.Cuts d root done first windows last where
  begins := h.begins
  tiled := h.tiled
  cuts := h.cuts
  cut := h.cut
  written := hs.trans h.written
  waiting he' := hc ▸ h.waiting (he he')

/-- When all that waits is dropped at a cut, what is left is the content of a window that begins there. -/
theorem reset_waiting {t : Option Tag} (h : l.Cuts d root (done ++ [.cut t]) first windows last)
    (he : l.ended = false) {stop : Nat} (hstop : (done ++ [Stroke.cut t]).length ≤ stop) :
    l.content.reset = (Content.start root).followIn ⟨done.length, stop⟩ 0 (done ++ [.cut t]) := by
  have hlast := h.cut.lt_length
  have hlength : (done ++ [Stroke.cut t]).length = done.length + 1 := List.length_append
  have hreset := Content.reset_followIn_concat_cut (w := ⟨last, stop⟩) (i := 0)
    (Content.start root) done (by dsimp only; omega) (by dsimp only; omega) t
  rw [← h.waiting he stop hstop, Nat.zero_add] at hreset
  exact hreset

/-- A section is cut off. -/
theorem flush (h : l.Cuts d root done first windows last) (he : l.ended = false) (t : Option Tag)
    (frame : Frame) (voice : String) :
    Ledger.Cuts d root (done ++ [.cut t]) first (windows ++ [⟨last, done.length⟩]) done.length
      { l.add (.speech frame voice l.content.render) with content := l.content.reset } where
  begins := h.begins.append _
  tiled := h.tiled.concat h.cut.lt_length
  cuts w hw := by
    rcases List.mem_append.mp hw with hw | hw
    · exact ⟨(h.cuts w hw).1.append _, (h.cuts w hw).2.append _⟩
    · rw [List.mem_singleton.mp hw]
      exact ⟨h.cut.append _, splitsAt_length done t⟩
  cut := splitsAt_length done t
  written := by
    have hlast : l.content =
        (Content.start root).followIn ⟨last, done.length⟩ 0 (done ++ [.cut t]) := by
      rw [Content.followIn_append_of_stop_le _ (Nat.le_of_eq (Nat.zero_add _).symm)]
      exact h.waiting he _ (Nat.le_refl _)
    simp [Ledger.add, Section.content?, h.written_append [.cut t], ← hlast]
  waiting _ _ hstop := (h.follow (.cut t) rfl rfl rfl).reset_waiting he hstop

/-- A mark cuts nothing off, and the start mark drops what was cut off. -/
theorem setMark {t : Tag} {m : Mark} (h : l.Cuts d root (done ++ [.cut (some t)]) first windows last)
    (hm : t.mark? = some m) : (l.setMark d m).IsCut d root (done ++ [.cut (some t)]) := by
  unfold Ledger.setMark
  split
  · exact ⟨first, windows, last, h⟩
  · split
    · next hs =>
      refine ⟨done.length, [], done.length, ?_, rfl, fun w hw => absurd hw List.not_mem_nil,
        splitsAt_length done _, rfl, fun he stop hstop => ?_⟩
      · exact .inr ⟨t, m, List.getElem?_concat_length, hm, hs⟩
      · exact h.reset_waiting (Bool.or_eq_false_iff.mp he).1 hstop
    · exact ⟨first, windows, last, h.congr rfl (fun he => (Bool.or_eq_false_iff.mp he).1) rfl⟩

end Ledger.Cuts

/-! ## 3. What the walk cuts -/

variable {ρ : Type}

namespace Progress

/-- The end of a section is a cut. -/
theorem isCut_flush {d : Declarations} {root : Tag} {done : List Stroke} {p : Progress ρ}
    (h : p.ledger.IsCut d root done) (t : Option Tag) :
    p.flush.ledger.IsCut d root (done ++ [.cut t]) := by
  obtain ⟨first, windows, last, h⟩ := h
  rcases ledger_flush p with ⟨-, hf⟩ | ⟨he, -, hf⟩
  · rw [hf]
    exact ⟨first, windows, last, h.follow (.cut t) rfl rfl rfl⟩
  · rw [hf]
    exact ⟨first, _, _, h.flush he t p.frame p.voice⟩

/-- A clip adds a section that is not cut from the content. -/
theorem isCut_clip {d : Declarations} {root : Tag} {done : List Stroke} {p : Progress ρ}
    (s : Scene) (t : Tag) (h : p.ledger.IsCut d root done) : (p.clip s t).ledger.IsCut d root done := by
  obtain ⟨first, windows, last, h⟩ := h
  rcases ledger_clip s t p with hl | ⟨kind, hkind, hl⟩
  · rw [hl]
    exact ⟨first, windows, last, h⟩
  · rw [hl]
    have hnone : [(⟨p.nextId, kind⟩ : Section)].filterMap Section.content? = [] :=
      List.filterMap_cons_none hkind
    refine ⟨first, windows, last, h.congr ?_ id rfl⟩
    exact List.filterMap_append.trans ((congrArg _ hnone).trans (List.append_nil _))

variable [VoiceRegistry ρ]

/-- A tag that is entered at a cut. -/
theorem isCut_enter {s : Scene} {root : Tag} {done : List Stroke} {p : Progress ρ} {t : Tag}
    (h : p.ledger.IsCut s.declarations root (done ++ [.cut (some t)])) :
    (p.enter s t).ledger.IsCut s.declarations root (done ++ [.cut (some t)]) := by
  rw [ledger_enter, Ledger.enter]
  cases hm : t.mark? with
  | none => exact h
  | some m =>
    obtain ⟨first, windows, last, h⟩ := h
    exact h.setMark hm

mutual

/-- **Visiting a node makes its strokes**, and cuts sections from them. -/
theorem isCut_visit (s : Scene) (root : Tag) : ∀ (n : Node) {done : List Stroke} {p : Progress ρ},
    p.ledger.IsCut s.declarations root done →
      (p.visit s n).ledger.IsCut s.declarations root (done ++ n.strokes)
  | .text text, done, p, ⟨first, windows, last, h⟩ => by
    rcases Bool.eq_false_or_eq_true p.ended with he | he
    · rw [visit_of_ended he]
      exact ⟨first, windows, last, h.pass he _⟩
    · rw [visit_of_text he]
      exact ⟨first, windows, last, h.follow (.text text) rfl rfl rfl⟩
  | .element tag children, done, p, hcut => by
    obtain ⟨first, windows, last, h⟩ := id hcut
    rcases Bool.eq_false_or_eq_true p.ended with he | he
    · rw [visit_of_ended he]
      exact ⟨first, windows, last, h.pass he _⟩
    have hflush := isCut_flush hcut (some tag)
    cases tag.kind with
    | declaration hd =>
      rw [visit_of_declaration children hd, strokes_of_declaration children hd, List.append_nil]
      exact hcut
    | plain hd hs =>
      rw [visit_of_plain children he hd hs, strokes_of_plain children hd hs,
        ← List.singleton_append, ← List.append_assoc, ← List.append_assoc]
      obtain ⟨first', windows', last', hinner⟩ := isCut_visitAll s root children
        (p := { p with content := p.content.openTag tag })
        ⟨first, windows, last, h.follow (.opening tag) rfl rfl rfl⟩
      exact ⟨first', windows', last', hinner.follow .closing rfl rfl rfl⟩
    | clip hd hs hc =>
      rw [visit_of_clip children he hd hs hc, strokes_of_clip children hd hs hc]
      exact isCut_clip s tag hflush
    | scope hd hs hc =>
      rw [visit_of_scope children he hd hs hc, strokes_of_scope children hd hs hc,
        ← List.singleton_append, ← List.append_assoc, ← List.append_assoc]
      have henter := isCut_enter hflush
      cases children with
      | nil =>
        obtain ⟨first', windows', last', h'⟩ := henter
        rw [strokesAll, List.append_nil]
        exact ⟨first', windows', last', h'.follow (.cut none) rfl rfl rfl⟩
      | cons c cs => exact isCut_flush (isCut_visitAll s root (c :: cs) henter) none

/-- So does visiting nodes that stand side by side. -/
theorem isCut_visitAll (s : Scene) (root : Tag) : ∀ (ns : List Node) {done : List Stroke}
    {p : Progress ρ}, p.ledger.IsCut s.declarations root done →
      (p.visitAll s ns).ledger.IsCut s.declarations root (done ++ strokesAll ns)
  | [], done, p, h => by
    rw [visitAll, strokesAll, List.append_nil]
    exact h
  | n :: ns, done, p, h => by
    rw [visitAll, strokesAll, ← List.append_assoc]
    exact isCut_visitAll s root ns (isCut_visit s root n h)

end

end Progress

variable [VoiceRegistry ρ]

/-- **The speech of a plan is cut from the document in windows**, one behind the other, that begin and end
where a section may end.  Each speech section is the part of the document in its window. -/
theorem speech_eq_within (s : Scene) (c : Config) (root : Element) (registry : ρ) :
    ∃ (first last : Nat) (windows : List Window),
      BeginsAt s.declarations root.strokes first ∧ Tiled first windows last ∧
        (∀ w ∈ windows, SplitsAt root.strokes w.start ∧ SplitsAt root.strokes w.stop) ∧
        (traverse s c root registry).plan.pruneChapters.speech =
          windows.map fun w => tidyString (root.within w).toString := by
  obtain ⟨first, windows, last, h⟩ := Progress.isCut_flush
    (Progress.isCut_visitAll s root.tag root.children (p := .start s c root.tag registry)
      ⟨0, [], 0, .start⟩) none
  refine ⟨first, last, windows, h.begins, h.tiled, h.cuts, h.written.trans ?_⟩
  refine List.map_congr_left fun w hw => ?_
  rw [Content.render_eq, ← Content.tree_followIn_strokes (Nat.le_of_lt (h.tiled.lt w hw)) root]
  rfl

end LecturePlan

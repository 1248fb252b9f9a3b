import LecturePlan.Compile.Walk
import LecturePlan.Proofs.Compile.Leaves
/-!
# What a walk through a document comes across

`Progress.visit` walks through a document and changes a state on the way.  This module says without
any state what there is to come across: the cues of a document are its text leaves and its splitting
tags in document order, without what stands inside declarations and clips.  The start mark and the
end mark cut this list, and what they leave is what is heard (`heard`).  Of the marks that are heard
the first of each name is set (`firstMarks`).

All of it is read off the document alone, so that it can stand on the other side of a statement about
the walk.
-/

namespace LecturePlan

open LecturePlan.Markup

/-! ## 1. Cues -/

/-- A text leaf or a splitting tag, with the tags of the elements around it from the inside out.  The
content root is not one of them. -/
inductive Cue where
  | text (around : List Tag) (s : String)
  | tag (around : List Tag) (t : Tag)
deriving DecidableEq, Repr

mutual

/-- The cues of a node that stands below some elements. -/
def Markup.Node.cues (around : List Tag) : Node → List Cue
  | .text s => [.text around s]
  | .element tag children =>
    if isDeclaration tag.name then []
    else if !isSplitting tag.name then cuesAll (tag :: around) children
    else if isClip tag.name then [.tag around tag]
    else .tag around tag :: cuesAll (tag :: around) children

/-- The cues of nodes that stand side by side. -/
def cuesAll (around : List Tag) : List Node → List Cue
  | [] => []
  | n :: ns => n.cues around ++ cuesAll around ns

end

/-- The cues of a document. -/
def Markup.Element.cues (root : Element) : List Cue := cuesAll [] root.children

section Cues

variable {tag : Tag} (around : List Tag) (children : List Node)

theorem cues_of_declaration (h : isDeclaration tag.name = true) :
    (Node.element tag children).cues around = [] := by
  rw [Node.cues, if_pos h]

theorem cues_of_plain (hd : isDeclaration tag.name = false) (hs : isSplitting tag.name = false) :
    (Node.element tag children).cues around = cuesAll (tag :: around) children := by
  rw [Node.cues, hd, hs]
  rfl

theorem cues_of_clip (hd : isDeclaration tag.name = false) (hs : isSplitting tag.name = true)
    (hc : isClip tag.name = true) : (Node.element tag children).cues around = [.tag around tag] := by
  rw [Node.cues, hd, hs, hc]
  rfl

theorem cues_of_scope (hd : isDeclaration tag.name = false) (hs : isSplitting tag.name = true)
    (hc : isClip tag.name = false) :
    (Node.element tag children).cues around =
      .tag around tag :: cuesAll (tag :: around) children := by
  rw [Node.cues, hd, hs, hc]
  rfl

end Cues

/-! ## 2. Marks -/

/-- What a mark tag asks for: a name, and the title of the chapter that begins there. -/
structure Mark where
  name : String
  title : Option String
deriving DecidableEq, Repr

/-- The mark of a tag.  A mark has a name, and an empty one counts as none. -/
def Markup.Tag.mark? (t : Tag) : Option Mark :=
  if t.name = "mark" then (t.nonEmptyAttr? "name").map fun name => ⟨name, t.nonEmptyAttr? "chapter"⟩
  else none

namespace Cue

/-- The mark of a cue. -/
def mark? : Cue → Option Mark
  | .text .. => none
  | .tag _ t => t.mark?

/-- Whether a cue is the mark of a name, if one is given. -/
def isMark (name : Option String) (c : Cue) : Bool :=
  match name, c.mark? with
  | some name, some m => m.name == name
  | _, _ => false

theorem isMark_of_none {c : Cue} (h : c.mark? = none) (name : Option String) :
    c.isMark name = false := by
  unfold isMark
  rw [h]
  cases name <;> rfl

theorem isMark_of_some {c : Cue} {m : Mark} (h : c.mark? = some m) (name : Option String) :
    c.isMark name = true ↔ name = some m.name := by
  unfold isMark
  rw [h]
  cases name with
  | none => simp
  | some n =>
    simp only [beq_iff_eq, Option.some.injEq]
    exact eq_comm

end Cue

/-- Adds the mark of a cue, unless its name is taken. -/
def addMark (ms : List Mark) (c : Cue) : List Mark :=
  match c.mark? with
  | none => ms
  | some m => if ms.any (fun m' => m'.name == m.name) then ms else ms ++ [m]

/-- The marks of some cues, of each name the first. -/
def firstMarks (cues : List Cue) : List Mark := cues.foldl addMark []

theorem firstMarks_append_singleton (cues : List Cue) (c : Cue) :
    firstMarks (cues ++ [c]) = addMark (firstMarks cues) c := by
  rw [firstMarks, List.foldl_append]
  rfl

theorem any_addMark (ms : List Mark) (c : Cue) (name : String) :
    (addMark ms c).any (fun m => m.name == name) =
      (ms.any (fun m => m.name == name) || c.isMark (some name)) := by
  unfold addMark Cue.isMark
  cases c.mark? with
  | none => simp
  | some m =>
    by_cases hm : ms.any (fun m' => m'.name == m.name) = true
    · by_cases hn : m.name = name
      · subst hn
        simp [hm]
      · simp [hm, hn]
    · simp [hm]

/-- A name is taken iff some cue is a mark of that name. -/
theorem any_firstMarks (cues : List Cue) (name : String) :
    (firstMarks cues).any (fun m => m.name == name) = cues.any (Cue.isMark (some name)) := by
  have hfold : ∀ (cs : List Cue) (ms : List Mark),
      (cs.foldl addMark ms).any (fun m => m.name == name) =
        (ms.any (fun m => m.name == name) || cs.any (Cue.isMark (some name))) := by
    intro cs
    induction cs with
    | nil => simp
    | cons c cs ih =>
      intro ms
      rw [List.foldl_cons, ih, any_addMark, List.any_cons, Bool.or_assoc]
  rw [firstMarks, hfold, List.any_nil, Bool.false_or]

/-- No two marks have one name. -/
theorem nodup_firstMarks (cues : List Cue) : ((firstMarks cues).map Mark.name).Nodup := by
  have hfold : ∀ (cs : List Cue) (ms : List Mark), (ms.map Mark.name).Nodup →
      ((cs.foldl addMark ms).map Mark.name).Nodup := by
    intro cs
    induction cs with
    | nil => exact fun ms h => h
    | cons c cs ih =>
      intro ms h
      rw [List.foldl_cons]
      apply ih
      unfold addMark
      split
      · exact h
      · next m _ =>
        split
        · exact h
        · next hm =>
          rw [List.map_append, List.map_singleton, List.nodup_append]
          refine ⟨h, by simp, ?_⟩
          rintro a ha b hb rfl
          obtain ⟨m', hm', rfl⟩ := List.mem_map.mp ha
          exact hm (List.any_eq_true.mpr ⟨m', hm', beq_iff_eq.mpr (List.mem_singleton.mp hb)⟩)
  exact hfold cues [] List.nodup_nil

/-! ## 3. What is heard -/

/-- The cues up to the first mark of a name and with it; all of them if there is none. -/
def upToMark (name : Option String) : List Cue → List Cue
  | [] => []
  | c :: cs => if c.isMark name then [c] else c :: upToMark name cs

/-- The cues from the first mark of a name on; all of them if there is none. -/
def fromMark (name : Option String) (cues : List Cue) : List Cue :=
  if cues.any (Cue.isMark name) then cues.dropWhile fun c => !c.isMark name else cues

/-- The cues that are heard: nothing behind the end mark, and of what is left nothing before the start
mark. -/
def heard (d : Declarations) (cues : List Cue) : List Cue :=
  fromMark d.startMark (upToMark d.endMark cues)

@[simp] theorem heard_nil (d : Declarations) : heard d [] = [] := by
  cases hs : d.startMark <;> simp [heard, upToMark, fromMark]

theorem upToMark_of_any {name : Option String} {cs : List Cue}
    (h : cs.any (Cue.isMark name) = true) (ds : List Cue) :
    upToMark name (cs ++ ds) = upToMark name cs := by
  induction cs with
  | nil => simp at h
  | cons c cs ih =>
    by_cases hc : c.isMark name = true
    · simp [upToMark, hc]
    · rw [List.any_cons, Bool.or_eq_true] at h
      simp [upToMark, hc, ih (h.resolve_left hc)]

theorem upToMark_of_not_any {name : Option String} {cs : List Cue}
    (h : cs.any (Cue.isMark name) = false) : upToMark name cs = cs := by
  induction cs with
  | nil => rfl
  | cons c cs ih =>
    rw [List.any_cons, Bool.or_eq_false_iff] at h
    simp [upToMark, h.1, ih h.2]

theorem upToMark_append_singleton_of_not_any {name : Option String} {cs : List Cue}
    (h : cs.any (Cue.isMark name) = false) (c : Cue) : upToMark name (cs ++ [c]) = cs ++ [c] := by
  induction cs with
  | nil => simp [upToMark]
  | cons x cs ih =>
    rw [List.any_cons, Bool.or_eq_false_iff] at h
    simp [upToMark, h.1, ih h.2]

theorem fromMark_append_of_any {name : Option String} {cs : List Cue}
    (h : cs.any (Cue.isMark name) = true) (c : Cue) :
    fromMark name (cs ++ [c]) = fromMark name cs ++ [c] := by
  unfold fromMark
  rw [List.any_append, h, Bool.true_or, if_pos rfl, if_pos rfl]
  induction cs with
  | nil => simp at h
  | cons x cs ih =>
    by_cases hx : x.isMark name = true
    · simp [hx]
    · rw [List.any_cons, Bool.or_eq_true] at h
      simp only [List.cons_append, List.dropWhile_cons, hx, Bool.not_false, if_true]
      exact ih (h.resolve_left hx)

theorem fromMark_append_of_not_mark {name : Option String} {cs : List Cue} {c : Cue}
    (hcs : cs.any (Cue.isMark name) = false) (hc : c.isMark name = false) :
    fromMark name (cs ++ [c]) = fromMark name cs ++ [c] := by
  simp [fromMark, hcs, hc]

theorem fromMark_append_of_first {name : Option String} {cs : List Cue} {c : Cue}
    (hcs : cs.any (Cue.isMark name) = false) (hc : c.isMark name = true) :
    fromMark name (cs ++ [c]) = [c] := by
  unfold fromMark
  rw [List.any_append, List.any_cons, hc, Bool.true_or, Bool.or_true, if_pos rfl]
  induction cs with
  | nil => simp [hc]
  | cons x cs ih =>
    rw [List.any_cons, Bool.or_eq_false_iff] at hcs
    simp only [List.cons_append, List.dropWhile_cons, hcs.1, Bool.not_false, if_true]
    exact ih hcs.2

theorem any_fromMark (name : Option String) (cs : List Cue) :
    (fromMark name cs).any (Cue.isMark name) = cs.any (Cue.isMark name) := by
  unfold fromMark
  split
  · next h =>
    rw [h]
    induction cs with
    | nil => simp at h
    | cons x cs ih =>
      by_cases hx : x.isMark name = true
      · simp [hx]
      · rw [List.any_cons, Bool.or_eq_true] at h
        simp only [List.dropWhile_cons, hx, Bool.not_false, if_true]
        exact ih (h.resolve_left hx)
  · rfl

theorem any_of_any_fromMark {name : Option String} {p : Cue → Bool} {cs : List Cue}
    (h : (fromMark name cs).any p = true) : cs.any p = true := by
  obtain ⟨c, hc, hp⟩ := List.any_eq_true.mp h
  refine List.any_eq_true.mpr ⟨c, ?_, hp⟩
  unfold fromMark at hc
  split at hc
  · exact (List.dropWhile_sublist _).subset hc
  · exact hc

/-- Behind the end mark nothing is heard. -/
theorem heard_of_ended {d : Declarations} {cs : List Cue}
    (h : cs.any (Cue.isMark d.endMark) = true) (ds : List Cue) : heard d (cs ++ ds) = heard d cs := by
  rw [heard, upToMark_of_any h, heard]

/-- Before the end mark a cue that is not the first start mark is heard after what was heard. -/
theorem heard_append {d : Declarations} {cs : List Cue} {c : Cue}
    (h : cs.any (Cue.isMark d.endMark) = false)
    (hc : cs.any (Cue.isMark d.startMark) = false → c.isMark d.startMark = false) :
    heard d (cs ++ [c]) = heard d cs ++ [c] := by
  rw [heard, heard, upToMark_append_singleton_of_not_any h, upToMark_of_not_any h]
  cases hs : cs.any (Cue.isMark d.startMark) with
  | true => exact fromMark_append_of_any hs c
  | false => exact fromMark_append_of_not_mark hs (hc hs)

/-- The first start mark drops what was heard before. -/
theorem heard_append_start {d : Declarations} {cs : List Cue} {c : Cue}
    (h : cs.any (Cue.isMark d.endMark) = false) (hs : cs.any (Cue.isMark d.startMark) = false)
    (hc : c.isMark d.startMark = true) : heard d (cs ++ [c]) = [c] := by
  rw [heard, upToMark_append_singleton_of_not_any h]
  exact fromMark_append_of_first hs hc

/-- A mark that is heard was come across. -/
theorem any_of_any_heard {d : Declarations} {p : Cue → Bool} {cs : List Cue}
    (h : cs.any (Cue.isMark d.endMark) = false) (hp : (heard d cs).any p = true) :
    cs.any p = true := by
  rw [heard, upToMark_of_not_any h] at hp
  exact any_of_any_fromMark hp

/-- A start mark that was come across before the end mark is heard. -/
theorem any_heard_start {d : Declarations} {cs : List Cue}
    (h : cs.any (Cue.isMark d.endMark) = false) :
    (heard d cs).any (Cue.isMark d.startMark) = cs.any (Cue.isMark d.startMark) := by
  rw [heard, upToMark_of_not_any h]
  exact any_fromMark d.startMark cs

/-! ## 4. The text that is heard -/

/-- The tags that text of a place is nested in, from the inside out: those around it that do not
split, and the root. -/
def nesting (root : Tag) (around : List Tag) : List Tag :=
  around.filter (fun t => !isSplitting t.name) ++ [root]

theorem nesting_cons_of_plain (root : Tag) (around : List Tag) {t : Tag}
    (h : isSplitting t.name = false) : nesting root (t :: around) = t :: nesting root around := by
  simp [nesting, h]

theorem nesting_cons_of_splitting (root : Tag) (around : List Tag) {t : Tag}
    (h : isSplitting t.name = true) : nesting root (t :: around) = nesting root around := by
  simp [nesting, h]

/-- The leaf of a text cue. -/
def Cue.leaf? (root : Tag) : Cue → Option Leaf
  | .text around s => some (nesting root around, s)
  | .tag .. => none

/-- The text leaves among the cues that are heard. -/
def heardText (d : Declarations) (root : Tag) (cues : List Cue) : List Leaf :=
  (heard d cues).filterMap (Cue.leaf? root)

end LecturePlan

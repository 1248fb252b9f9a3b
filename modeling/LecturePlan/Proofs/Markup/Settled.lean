import LecturePlan.Proofs.Markup.Normal
/-!
# Trees as they are read

A tree need not be normal to be written.  Sections are cut between the pieces of one text, or are left
with white space alone between two tags; such text is read as one leaf, or is not read at all.  This
module says what is read of any tree: `gather` puts the text of siblings in one piece and drops what is
blank, and `settled` does so at every depth.

Only the tags matter for whether a tree can be read at all (`Node.Readable`).  A tree whose text is in
one piece is settled already (`settled_of_whole`).
-/

namespace LecturePlan.Markup

open LecturePlan.Text

/-! ## 1. Tags that are read back -/

/-- A tag that is read as it was written: its names can be told from markup, and it has no key twice. -/
structure Tag.Readable (t : Tag) : Prop where
  legible : t.Legible
  distinct : t.Distinct

mutual

/-- All tags of a node and below it are read as they were written. -/
def Node.Readable : Node → Prop
  | .text _ => True
  | .element tag children => tag.Readable ∧ ReadableAll children

/-- So are those of some siblings. -/
def ReadableAll : List Node → Prop
  | [] => True
  | n :: ns => n.Readable ∧ ReadableAll ns

end

/-- All tags of an element are read as they were written. -/
def Element.Readable (e : Element) : Prop := e.toNode.Readable

@[simp] theorem readableAll_append {ns ms : List Node} :
    ReadableAll (ns ++ ms) ↔ ReadableAll ns ∧ ReadableAll ms := by
  induction ns with
  | nil => exact ⟨fun h => ⟨trivial, h⟩, And.right⟩
  | cons n ns ih => rw [List.cons_append, ReadableAll, ReadableAll, ih, and_assoc]

mutual

/-- Normal trees are readable. -/
theorem readable_of_normal : ∀ {n : Node}, n.Legible → n.Whole → n.Readable
  | .text _, _, _ => trivial
  | .element _ _, ⟨htag, hlegible⟩, ⟨hdistinct, hwhole⟩ =>
    ⟨⟨htag, hdistinct⟩, readableAll_of_normal hlegible hwhole⟩

theorem readableAll_of_normal : ∀ {ns : List Node}, LegibleAll ns → WholeAll ns → ReadableAll ns
  | [], _, _ => trivial
  | _ :: _, ⟨hn, hns⟩, ⟨hwhole, _, hwholes⟩ =>
    ⟨readable_of_normal hn hwhole, readableAll_of_normal hns hwholes⟩

end

/-! ## 2. Text in one piece -/

/-- The leaf of a text, if it is not blank. -/
def leafOf (s : List Char) : List Node := if allBlank s then [] else [.text (String.ofList s)]

/-- Siblings with their text in one piece, where some text is pending in front of them. -/
def gather (pending : List Char) : List Node → List Node
  | [] => leafOf pending
  | .text s :: ns => gather (pending ++ s.toList) ns
  | .element tag children :: ns => leafOf pending ++ .element tag children :: gather [] ns

mutual

/-- A node as it is read: below it, text is in one piece, and no text is blank. -/
def Node.settled : Node → Node
  | .text s => .text s
  | .element tag children => .element tag (gather [] (settledEach children))

/-- Siblings, each of them as it is read. -/
def settledEach : List Node → List Node
  | [] => []
  | n :: ns => n.settled :: settledEach ns

end

/-- An element as it is read. -/
def Element.settled (e : Element) : Element := ⟨e.tag, gather [] (settledEach e.children)⟩

theorem leafOf_of_blank {s : List Char} (h : allBlank s = true) : leafOf s = [] := if_pos h

theorem leafOf_of_not_blank {s : List Char} (h : allBlank s = false) :
    leafOf s = [.text (String.ofList s)] := if_neg (by rw [h]; exact Bool.false_ne_true)

/-- Pending text stays where it is in front of siblings that do not start with text. -/
theorem gather_of_whole {pending : List Char} : ∀ {ns : List Node}, WholeAll ns →
    (pending = [] ∨ startsWithText ns = false) → gather pending ns = leafOf pending ++ ns
  | [], _, _ => (List.append_nil _).symm
  | .text s :: ns, ⟨hs, hfirst, hns⟩, hpending => by
    have hnil : pending = [] := hpending.resolve_right Bool.noConfusion
    have hblank : leafOf ([] : List Char) = [] := rfl
    rw [gather, hnil, List.nil_append, gather_of_whole hns (.inr hfirst), leafOf_of_not_blank hs,
      hblank, String.ofList_toList]
    rfl
  | .element tag children :: ns, ⟨_, _, hns⟩, _ => by
    have hblank : leafOf ([] : List Char) = [] := rfl
    rw [gather, gather_of_whole hns (.inl rfl), hblank, List.nil_append]

mutual

/-- **A tree whose text is in one piece is read as it is.** -/
theorem settled_of_whole : ∀ {n : Node}, n.Whole → n.settled = n
  | .text _, _ => rfl
  | .element tag children, ⟨_, h⟩ => by
    rw [Node.settled, settledEach_of_whole h, gather_of_whole h (.inl rfl)]
    rfl

theorem settledEach_of_whole : ∀ {ns : List Node}, WholeAll ns → settledEach ns = ns
  | [], _ => rfl
  | _ :: _, ⟨hn, _, hns⟩ => by rw [settledEach, settled_of_whole hn, settledEach_of_whole hns]

end

end LecturePlan.Markup

import LecturePlan.Compile.Content
/-!
# Text leaves of trees and of collected content

A text leaf of a tree is known by its text and by the tags of the elements around it.  This module
lists the leaves of a tree in document order, and says what each operation on collected content does
to the leaves of the tree that would be rendered: text adds one leaf below the open elements, opening
and closing an element change nothing, and a reset takes all of them away.

So a chain of open elements may be cut and carried on in any way: what is read later is found under
the tags that are open then (`leaves_addText`), whatever was dropped in between.
-/

namespace LecturePlan

open LecturePlan.Markup

/-! ## 1. Leaves of trees -/

/-- A text leaf: the tags of the elements around it, from the inside out, and its text. -/
abbrev Leaf := List Tag × String

mutual

/-- The leaves of a node that stands below some elements, in document order. -/
def Markup.Node.leaves (around : List Tag) : Node → List Leaf
  | .text s => [(around, s)]
  | .element tag children => leavesAll (tag :: around) children

/-- The leaves of nodes that stand side by side. -/
def leavesAll (around : List Tag) : List Node → List Leaf
  | [] => []
  | n :: ns => n.leaves around ++ leavesAll around ns

end

/-- The leaves of an element that nothing is around. -/
def Markup.Element.leaves (e : Element) : List Leaf := leavesAll [e.tag] e.children

@[simp] theorem leavesAll_append (around : List Tag) (ns ms : List Node) :
    leavesAll around (ns ++ ms) = leavesAll around ns ++ leavesAll around ms := by
  induction ns with
  | nil => rfl
  | cons n ns ih => rw [List.cons_append, leavesAll, leavesAll, ih, List.append_assoc]

@[simp] theorem leavesAll_singleton (around : List Tag) (n : Node) :
    leavesAll around [n] = n.leaves around := by
  rw [leavesAll, leavesAll, List.append_nil]

mutual

/-- A node contains text iff it has a leaf, wherever it stands. -/
theorem containsText_iff_leaves (around : List Tag) :
    ∀ n : Node, n.containsText = true ↔ n.leaves around ≠ []
  | .text s => by simp [Node.containsText, Node.leaves]
  | .element tag children => by
    rw [Node.containsText, Node.leaves]
    exact containsTextAny_iff_leaves (tag :: around) children

/-- Some node of a list contains text iff the list has a leaf. -/
theorem containsTextAny_iff_leaves (around : List Tag) :
    ∀ ns : List Node, containsTextAny ns = true ↔ leavesAll around ns ≠ []
  | [] => by simp [containsTextAny, leavesAll]
  | n :: ns => by
    rw [containsTextAny, leavesAll, Bool.or_eq_true, containsText_iff_leaves around n,
      containsTextAny_iff_leaves around ns, ne_eq, ne_eq, ne_eq, List.append_eq_nil_iff,
      Classical.not_and_iff_not_or_not]

end

/-! ## 2. Leaves of collected content -/

namespace Content

/-- The leaves below a chain of open elements, given from the inside out: those of the outer ones
first, since the inner ones come after all children that are complete. -/
def chainLeaves : List Element → List Leaf
  | [] => []
  | e :: es => chainLeaves es ++ leavesAll (e.tag :: es.map Element.tag) e.children

/-- The leaves that have been collected, under the tags that are open around them. -/
def leaves (c : Content) : List Leaf := chainLeaves c.chain

/-- The tree that would be rendered has the leaves that have been collected.  The induction closes
the open elements one by one, as `tree` does. -/
theorem leaves_tree (c : Content) : c.tree.leaves = c.leaves := by
  obtain ⟨inner, outer⟩ := c
  induction outer generalizing inner with
  | nil => rfl
  | cons e es ih =>
    have hclose : (⟨inner, e :: es⟩ : Content).tree =
        (⟨appendTo e inner.toNode, es⟩ : Content).tree := rfl
    rw [hclose, ih]
    simp only [leaves, chain, chainLeaves, appendTo, leavesAll_append, leavesAll_singleton,
      Element.toNode, Node.leaves, List.map_cons, List.append_assoc]

/-- Some text has been collected iff there is a leaf. -/
theorem hasText_iff_leaves (c : Content) : c.hasText = true ↔ c.leaves ≠ [] := by
  have hchain : ∀ es : List Element,
      (es.any fun e => containsTextAny e.children) = true ↔ chainLeaves es ≠ [] := by
    intro es
    induction es with
    | nil => simp [chainLeaves]
    | cons e es ih =>
      rw [List.any_cons, Bool.or_eq_true, ih, chainLeaves,
        containsTextAny_iff_leaves (e.tag :: es.map Element.tag), ne_eq, ne_eq, ne_eq,
        List.append_eq_nil_iff, Classical.not_and_iff_not_or_not, Or.comm]
  exact hchain c.chain

theorem leaves_eq_nil {c : Content} (h : c.hasText = false) : c.leaves = [] := by
  by_cases hl : c.leaves = []
  · exact hl
  · rw [(hasText_iff_leaves c).mpr hl] at h
    cases h

/-- Text becomes the last leaf, below the elements that are open. -/
theorem leaves_addText (c : Content) (s : String) :
    (c.addText s).leaves = c.leaves ++ [(c.tags, s)] := by
  simp [leaves, addText, chain, chainLeaves, appendTo, Node.leaves, tags]

@[simp] theorem leaves_openTag (c : Content) (t : Tag) : (c.openTag t).leaves = c.leaves := by
  simp [leaves, openTag, chain, chainLeaves, leavesAll]

/-- Closing an element moves it to the children of the next one and keeps every leaf. -/
@[simp] theorem leaves_close (c : Content) : c.close.leaves = c.leaves := by
  obtain ⟨inner, outer⟩ := c
  cases outer with
  | nil => rfl
  | cons e es => rw [← leaves_tree, ← leaves_tree]; rfl

@[simp] theorem leaves_reset (c : Content) : c.reset.leaves = [] :=
  leaves_eq_nil (hasText_reset c)

@[simp] theorem hasText_openTag (c : Content) (t : Tag) : (c.openTag t).hasText = c.hasText := by
  simp [hasText, openTag, chain, containsTextAny]

@[simp] theorem hasText_close (c : Content) : c.close.hasText = c.hasText := by
  rw [Bool.eq_iff_iff, hasText_iff_leaves, hasText_iff_leaves, leaves_close]

end Content

end LecturePlan

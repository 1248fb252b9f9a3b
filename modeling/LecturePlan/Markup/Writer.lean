import LecturePlan.Markup.Reference
import LecturePlan.Markup.Tree
/-!
# Writing markup

A tree is written without any white space of its own.  Text and attribute values are escaped, and an
element without children is written as one tag that ends itself, so that reading the text gives the
tree again.
-/

namespace LecturePlan.Markup

/-- One attribute, with the space in front of it. -/
def writeAttribute (a : Attribute) : List Char :=
  ' ' :: a.1.toList ++ ['=', '"'] ++ escapeValue a.2.toList ++ ['"']

/-- What a start tag holds before its closing bracket. -/
def Tag.content (t : Tag) : List Char := t.name.toList ++ t.attributes.flatMap writeAttribute

/-- A start tag. -/
def Tag.opening (t : Tag) : List Char := '<' :: t.content ++ ['>']

/-- A tag that ends itself. -/
def Tag.selfClosed (t : Tag) : List Char := '<' :: t.content ++ ['/', '>']

/-- An end tag. -/
def Tag.closing (t : Tag) : List Char := ['<', '/'] ++ t.name.toList ++ ['>']

mutual

/-- The characters of a node. -/
def Node.write : Node → List Char
  | .text s => escapeText s.toList
  | .element tag [] => tag.selfClosed
  | .element tag (child :: children) =>
    tag.opening ++ (child.write ++ writeAll children) ++ tag.closing

/-- The characters of a list of nodes, one after the other. -/
def writeAll : List Node → List Char
  | [] => []
  | n :: ns => n.write ++ writeAll ns

end

/-- The text of a node. -/
def Node.toString (n : Node) : String := String.ofList n.write

/-- The characters of an element. -/
def Element.write (e : Element) : List Char := e.toNode.write

/-- The text of an element. -/
def Element.toString (e : Element) : String := String.ofList e.write

theorem write_element_of_ne_nil (tag : Tag) {children : List Node} (h : children ≠ []) :
    (Node.element tag children).write = tag.opening ++ writeAll children ++ tag.closing := by
  cases children with
  | nil => exact absurd rfl h
  | cons c cs => simp [Node.write, writeAll]

end LecturePlan.Markup

import LecturePlan.Markup.Tidy
import LecturePlan.Markup.Writer
/-!
# Content of a section in progress

The markup that has been collected since the last section is kept as the chain of elements that are
open, each with the children that are complete.  When a section is cut off, the children go and the
chain stays, so what follows nests as it did before.  The outermost element is never closed.
-/

namespace LecturePlan

open LecturePlan.Markup

/-- Collected markup: the innermost open element and the open elements around it, from the inside
out. -/
structure Content where
  inner : Element
  outer : List Element

namespace Content

/-- Nothing is collected below a root. -/
def start (root : Tag) : Content := ⟨⟨root, []⟩, []⟩

/-- Appends a node to the children of an element. -/
def appendTo (e : Element) (n : Node) : Element := { e with children := e.children ++ [n] }

/-- Adds text to the innermost open element. -/
def addText (c : Content) (s : String) : Content := { c with inner := appendTo c.inner (.text s) }

/-- Opens an element. -/
def openTag (c : Content) (t : Tag) : Content := ⟨⟨t, []⟩, c.inner :: c.outer⟩

/-- Closes the innermost open element, unless it is the outermost. -/
def close (c : Content) : Content :=
  match c.outer with
  | [] => c
  | e :: es => ⟨appendTo e c.inner.toNode, es⟩

/-- The open elements, from the inside out. -/
def chain (c : Content) : List Element := c.inner :: c.outer

/-- The tags of the open elements, from the inside out. -/
def tags (c : Content) : List Tag := c.chain.map Element.tag

/-- The number of open elements. -/
def depth (c : Content) : Nat := c.chain.length

/-- Whether any text has been collected. -/
def hasText (c : Content) : Bool := c.chain.any fun e => containsTextAny e.children

/-- Takes the children of an element away. -/
def clear (e : Element) : Element := { e with children := [] }

/-- Drops all that has been collected and keeps the open elements. -/
def reset (c : Content) : Content := ⟨clear c.inner, c.outer.map clear⟩

/-- The collected content as one tree, as if all open elements were closed. -/
def tree (c : Content) : Element := c.outer.foldl (fun e around => appendTo around e.toNode) c.inner

/-- The document of a speech section. -/
def render (c : Content) : String := String.ofList (tidy c.tree.write)

/-! ## Tags and text of the operations -/

@[simp] theorem tags_addText (c : Content) (s : String) : (c.addText s).tags = c.tags := rfl

@[simp] theorem tags_openTag (c : Content) (t : Tag) : (c.openTag t).tags = t :: c.tags := rfl

theorem tags_close (c : Content) :
    c.close.tags = if c.outer = [] then c.tags else c.tags.tail := by
  obtain ⟨inner, outer⟩ := c
  cases outer <;> simp [close, tags, chain, appendTo]

@[simp] theorem tags_reset (c : Content) : c.reset.tags = c.tags := by
  simp [reset, tags, chain, clear]

@[simp] theorem hasText_reset (c : Content) : c.reset.hasText = false := by
  simp [reset, hasText, chain, clear, containsTextAny]

/-! ## What a reset leaves -/

@[simp] theorem reset_reset (c : Content) : c.reset.reset = c.reset := by
  simp [reset, clear]

@[simp] theorem reset_addText (c : Content) (s : String) : (c.addText s).reset = c.reset := rfl

@[simp] theorem reset_openTag (c : Content) (t : Tag) : (c.openTag t).reset = c.reset.openTag t := rfl

/-- What is left when an element is closed depends on what is left of the elements that are open. -/
theorem reset_close (c : Content) : c.close.reset = c.reset.close.reset := by
  obtain ⟨inner, outer⟩ := c
  cases outer with
  | nil => exact (reset_reset _).symm
  | cons e es => simp [close, reset, appendTo, clear]

/-- An element that is opened and closed leaves nothing. -/
theorem reset_close_openTag (c : Content) (t : Tag) : (c.openTag t).close.reset = c.reset := rfl

end Content

end LecturePlan

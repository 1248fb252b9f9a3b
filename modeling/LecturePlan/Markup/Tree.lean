import LecturePlan.Text.CharClass
/-!
# Markup trees

A script is a tree of elements and text leaves.  A `Tag` is an element's name with its attributes;
it is all that stays of an element when its children are taken away.  The same tree type holds the
script, its rewritten form, and the content of the speech sections that are cut from it.
-/

namespace LecturePlan.Markup

/-- An attribute: its name and its value, character references resolved. -/
abbrev Attribute := String × String

/-- A qualified name with attributes in written order. -/
structure Tag where
  name : String
  attributes : List Attribute
deriving DecidableEq, Repr, Inhabited

/-- A text leaf, or an element with its children in order. -/
inductive Node where
  | text (s : String)
  | element (tag : Tag) (children : List Node)
deriving Inhabited, Repr

/-- An element by itself, such as the root of a script. -/
structure Element where
  tag : Tag
  children : List Node
deriving Inhabited, Repr

/-! ## 1. Attributes -/

namespace Tag

/-- The value of an attribute. -/
def attr? (t : Tag) (name : String) : Option String := t.attributes.lookup name

/-- The value of an attribute; an empty one counts as absent. -/
def nonEmptyAttr? (t : Tag) (name : String) : Option String :=
  (t.attr? name).filter (· != "")

/-- Replaces the value of an attribute where it stands, or appends the attribute. -/
def setIn (name value : String) : List Attribute → List Attribute
  | [] => [(name, value)]
  | a :: as => if a.1 = name then (name, value) :: as else a :: setIn name value as

/-- The tag with one attribute set. -/
def set (t : Tag) (name value : String) : Tag :=
  { t with attributes := setIn name value t.attributes }

theorem lookup_setIn (name name' value : String) (as : List Attribute) :
    (setIn name value as).lookup name' = if name' = name then some value else as.lookup name' := by
  induction as with
  | nil =>
    by_cases h : name' = name
    · simp [setIn, h]
    · have hb : (name' == name) = false := by simpa using h
      simp [setIn, List.lookup_cons, h, hb]
  | cons a as ih =>
    obtain ⟨n, v⟩ := a
    by_cases h : n = name
    · subst h
      by_cases h' : name' = n
      · simp [setIn, h']
      · have hb : (name' == n) = false := by simpa using h'
        simp [setIn, List.lookup_cons, h', hb]
    · by_cases h' : name' = n
      · subst h'
        simp [setIn, h]
      · have hb : (name' == n) = false := by simpa using h'
        simp [setIn, h, List.lookup_cons, hb, ih]

/-- Setting an attribute changes the answer for its name only. -/
theorem attr?_set (t : Tag) (name name' value : String) :
    (t.set name value).attr? name' = if name' = name then some value else t.attr? name' :=
  lookup_setIn name name' value t.attributes

end Tag

/-! ## 2. Nodes -/

/-- The element as a node. -/
def Element.toNode (e : Element) : Node := .element e.tag e.children

mutual

/-- Whether a node is, or contains, a text leaf. -/
def Node.containsText : Node → Bool
  | .text _ => true
  | .element _ children => containsTextAny children

/-- Whether some node of a list contains a text leaf. -/
def containsTextAny : List Node → Bool
  | [] => false
  | n :: ns => n.containsText || containsTextAny ns

end

@[simp] theorem containsTextAny_append (ns ms : List Node) :
    containsTextAny (ns ++ ms) = (containsTextAny ns || containsTextAny ms) := by
  induction ns with
  | nil => simp [containsTextAny]
  | cons n ns ih => simp [containsTextAny, ih, Bool.or_assoc]

/-- The child elements of an element, text left out. -/
def Element.childElements (e : Element) : List Element :=
  e.children.filterMap fun
    | .text _ => none
    | .element tag children => some ⟨tag, children⟩

/-- Whether a node is an element of a given name. -/
def Node.isNamed (name : String) : Node → Bool
  | .text _ => false
  | .element tag _ => tag.name == name

end LecturePlan.Markup

import LecturePlan.Text.CharClass
/-!
# Paths

A path is read from its text as a list of parts: names and steps to the parent directory.  Repeated
separators and `.` leave no trace.  `resolve` joins a path to a base directory and walks it
lexically, so that two spellings of one walk give one path; no file is looked at.
-/

namespace LecturePlan

/-- One step of a path. -/
inductive Path.Part where
  | name (s : String)
  | parent
deriving DecidableEq, Repr

/-- A path from the root of the file system, or from a directory that is still to be chosen. -/
structure Path where
  rooted : Bool
  parts : List Path.Part
deriving DecidableEq, Repr

namespace Path

/-! ## 1. Text -/

/-- The step that the text between two separators stands for: none when it is empty or `.`. -/
def Part.ofPiece? (p : List Char) : Option Part :=
  if p = [] ∨ p = ['.'] then none
  else if p = ['.', '.'] then some .parent
  else some (.name (String.ofList p))

/-- Reads a path. -/
def ofString (s : String) : Path :=
  ⟨s.toList.head? == some '/', (s.toList.splitOn '/').filterMap Part.ofPiece?⟩

/-- The text of a step. -/
def Part.toString : Part → String
  | .name s => s
  | .parent => ".."

/-- Writes a path, with one separator between two steps and none at the end. -/
def toString (p : Path) : String :=
  (if p.rooted then "/" else "") ++ String.intercalate "/" (p.parts.map Part.toString)

/-! ## 2. Walking -/

/-- The empty path: the directory that relative paths start from. -/
def here : Path := ⟨false, []⟩

/-- A path seen from a directory; a rooted path stands for itself. -/
def join (base p : Path) : Path :=
  if p.rooted then p else ⟨base.rooted, base.parts ++ p.parts⟩

/-- Takes one step from the names walked so far, the last one first.  A step to the parent directory
takes the last name back, and is without effect where none is left. -/
def step (walked : List String) : Part → List String
  | .name s => s :: walked
  | .parent => walked.tail

/-- The names that a list of steps ends at. -/
def walk (parts : List Part) : List String := (parts.foldl step []).reverse

/-- The path of names that a path walks to. -/
def normalize (p : Path) : Path := ⟨p.rooted, (walk p.parts).map .name⟩

/-- The place that a path denotes, seen from a base directory. -/
def resolve (p base : Path) : Path := (base.join p).normalize

/-- The directory that holds the file at a path. -/
def directory (p : Path) : Path := ⟨p.rooted, p.parts.dropLast⟩

@[simp] theorem rooted_normalize (p : Path) : p.normalize.rooted = p.rooted := rfl

theorem join_of_rooted {base p : Path} (h : p.rooted = true) : base.join p = p := by
  simp [join, h]

/-! ## 3. File names -/

/-- The last step, if it is a name. -/
def fileName? (p : Path) : Option String :=
  match p.parts.getLast? with
  | some (.name s) => some s
  | _ => none

/-- What follows the last dot of the file name.  A name whose only dot stands in front has no
extension. -/
def extension? (p : Path) : Option String := do
  let name := (← p.fileName?).toList.reverse
  let ext := name.takeWhile (· != '.')
  match name.dropWhile (· != '.') with
  | _ :: _ :: _ => some (String.ofList ext.reverse)
  | _ => none

/-- Whether the file name has an extension, in any case of its ASCII letters. -/
def hasExtension (p : Path) (ext : String) : Bool :=
  match p.extension? with
  | some e => Text.sameIgnoringCase e.toList ext.toList
  | none => false

end Path

end LecturePlan

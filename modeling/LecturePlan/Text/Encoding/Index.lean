/-!
# Indexes

Large sets of characters are laid out in planes, and a character is found by its number in the plane.
An index gives the characters of a plane: in runs, where they follow each other in Unicode as well,
and in rows.
-/

namespace LecturePlan.Text

/-- The characters of a plane. -/
structure Index where
  /-- First and last number of a run, and the code point of its first character. -/
  runs : List (Nat × Nat × Nat)
  /-- First number of a row, and its characters; the replacement character stands for a gap. -/
  rows : List (Nat × String)

namespace Index

/-- What stands for a gap in a row. -/
def gap : Char := '\uFFFD'

/-- The character of a row at a distance from its first one. -/
def inRow? (row : String) (n : Nat) : Option Char := (row.toList[n]?).filter (· != gap)

/-- The last row that does not begin behind a number. -/
def rowOf? (rows : List (Nat × String)) (n : Nat) : Option (Nat × String) :=
  (rows.takeWhile fun row => row.1 ≤ n).getLast?

/-- The character of a number. -/
def char? (x : Index) (n : Nat) : Option Char :=
  match x.runs.find? fun run => run.1 ≤ n && n ≤ run.2.1 with
  | some run => some (Char.ofNat (run.2.2 + (n - run.1)))
  | none => (rowOf? x.rows n).bind fun row => inRow? row.2 (n - row.1)

end Index

end LecturePlan.Text

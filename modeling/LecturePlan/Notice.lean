import LecturePlan.Text.CharClass
import LecturePlan.Warning
/-!
# Notices

What is told while a script is read and compiled: every warning, and what has been reached.  The lines
of a notice after its first one are indented, so that a line tells by its beginning whether a notice
begins there.  Control characters of what is quoted from a script are not shown.
-/

namespace LecturePlan

open LecturePlan.Text

/-- Something that is told on the way. -/
inductive Notice where
  | warning (w : Warning)
  | deckFound (source id : String) (pages : Nat)
  | lexiconFound (id : String) (lexemes : Nat)
  | startReached (name : String)
  | endReached (name : String)
deriving DecidableEq, Repr

namespace Notice

/-- Whether a notice tells of a tag that could not be used as it was meant. -/
def isWarning : Notice → Bool
  | .warning _ => true
  | _ => false

/-- The wording of a notice. -/
def message : Notice → String
  | .warning w => "<" ++ w.tag ++ ">: " ++ w.message
  | .deckFound source id pages =>
    "Initialised slide deck " ++ quoted source ++ " (" ++ Decimal.ofNat pages ++
      " pages) with the id " ++ quoted id
  | .lexiconFound id lexemes =>
    "Initialised lexicon " ++ quoted id ++ " with " ++ Decimal.ofNat lexemes ++ " lexemes"
  | .startReached name =>
    "Resetting sections as the start mark <mark name=" ++ quoted name ++ "> was encountered"
  | .endReached name => "End mark <mark name=" ++ quoted name ++ "> was reached"

/-- What the first line of a notice begins with. -/
def label (n : Notice) : String := if n.isWarning then "[warning] " else "[info] "

/-- What the other lines of a notice begin with. -/
def indent : String := "    "

/-- Whether a character is shown: controls are not, unless they are white space. -/
def isShown (c : Char) : Bool :=
  (0x20 ≤ c.toNat && c.toNat != 0x7F) || isLineBreak c || isIndent c || c == '\x0c'

/-- The lines of a text. -/
def linesOf (text : String) : List String := (text.toList.splitOn '\n').map String.ofList

/-- The lines of a notice. -/
def lines (n : Notice) : List String :=
  match linesOf (String.ofList (n.message.toList.filter isShown)) with
  | [] => []
  | first :: more => (n.label ++ first) :: more.map (indent ++ ·)

end Notice

end LecturePlan

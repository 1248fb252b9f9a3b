import LecturePlan.Markup.Tree
import LecturePlan.Plan.Section
/-!
# The attributes of clip tags

A video or audio tag may trim its file and change how it is played.  A bound is used if it is a
timestamp behind the beginning of the file; anything else that cannot be used is reported and
ignored.  Only a window that ends before it begins makes the tag unusable.
-/

namespace LecturePlan

open LecturePlan.Markup LecturePlan.Text

/-! ## 1. Trim window -/

/-- Reads one bound.  A bound of zero is the beginning of the file and is as good as none. -/
def clipPoint (t : Tag) (key : String) : Option Timestamp × List Warning :=
  match t.nonEmptyAttr? key with
  | none => (none, [])
  | some value =>
    match Timestamp.parse? value with
    | some p => (if 0 < p.total then some p else none, [])
    | none => (none, [⟨t.name, .boundInvalid key value⟩])

/-- Reads both bounds; the pair of them is the error if the window is empty. -/
def clipWindow (t : Tag) :
    Except (Timestamp × Timestamp) (ClipBound × ClipBound) × List Warning :=
  let first := clipPoint t "clipBegin"
  let last := clipPoint t "clipEnd"
  let bounds := ((first.1.map ClipBound.at').getD .start, (last.1.map ClipBound.at').getD .end')
  let window := match first.1, last.1 with
    | some b, some e => if e.total ≤ b.total then .error (b, e) else .ok bounds
    | _, _ => .ok bounds
  (window, first.2 ++ last.2)

/-! ## 2. Playback -/

/-- Reads a percentage from 50 to 200, without zeros in front. -/
def readSpeed? (s : List Char) : Option Nat :=
  let cut := splitBefore (fun c => !isDigit c) s
  if cut.2 = ['%'] ∧ cut.1.head? ≠ some '0' then
    (Decimal.read? cut.1).filter fun n => 50 ≤ n && n ≤ 200
  else none

/-- Reads a signed level of one or two digits in decibels. -/
def readLevel? (s : List Char) : Option Int :=
  let level (s : List Char) : Option Nat :=
    let cut := splitBefore (fun c => !isDigit c) s
    if cut.2 = ['d', 'B'] ∧ cut.1.length ≤ 2 then Decimal.read? cut.1 else none
  match s with
  | '+' :: s => (level s).map fun n => (n : Int)
  | '-' :: s => (level s).map fun n => -(n : Int)
  | _ => none

/-- Reads a positive number of 32 bits. -/
def readCount? (s : List Char) : Option Nat :=
  (Decimal.readUpTo? Word.max32 s).filter (0 < ·)

/-- Reads an attribute that has to be of a certain form. -/
def readAttr {α : Type} (t : Tag) (key expected : String) (read? : List Char → Option α) :
    Option α × List Warning :=
  match t.attr? key with
  | none => (none, [])
  | some value =>
    match read? value.toList with
    | some a => (some a, [])
    | none => (none, [⟨t.name, .playbackInvalid key value expected⟩])

/-- Reads how a clip is played. -/
def readPlayback (t : Tag) : Playback × List Warning :=
  let speed := readAttr t "speed" "a percentage from 50% to 200%" readSpeed?
  let level := readAttr t "soundLevel" "a signed level such as +6dB" readLevel?
  let count := readAttr t "repeatCount" "a positive integer" readCount?
  (⟨speed.1, level.1, count.1⟩, speed.2 ++ level.2 ++ count.2)

end LecturePlan

import LecturePlan.Word
import LecturePlan.Text.Decimal
/-!
# Timestamps

A point in a media file is written in one of three styles: `hh:mm:ss` with optional
milliseconds, `mm:ss`, or a number of seconds or milliseconds with its unit.  All denote a number of
milliseconds, which has to fit 64 bits, and all have one canonical form, `HH:MM:SS.mmm`.  Minutes
and seconds may exceed 59 when they are written; the canonical form carries them over.
-/

namespace LecturePlan

open LecturePlan.Text

/-- The three ways to write a timestamp.  `hh:mm:ss` without milliseconds is of the first. -/
inductive Timestamp.Style where
  | clock
  | minutes
  | unit
deriving DecidableEq, Repr

/-- A point in a media file. -/
structure Timestamp where
  /-- Milliseconds from the beginning of the file. -/
  total : Nat
deriving DecidableEq, Repr

namespace Timestamp

/-! ## 1. Parts -/

/-- Full hours. -/
def hours (t : Timestamp) : Nat := t.total / 3600000

/-- Full minutes of the last hour. -/
def minutes (t : Timestamp) : Nat := t.total / 60000 % 60

/-- Full seconds of the last minute. -/
def seconds (t : Timestamp) : Nat := t.total / 1000 % 60

/-- Milliseconds of the last second. -/
def milliseconds (t : Timestamp) : Nat := t.total % 1000

/-- The parts recompose to the whole. -/
theorem parts_total (t : Timestamp) :
    ((t.hours * 60 + t.minutes) * 60 + t.seconds) * 1000 + t.milliseconds = t.total := by
  simp only [hours, minutes, seconds, milliseconds]
  omega

/-- The characters of the canonical form. -/
def canonicalChars (t : Timestamp) : List Char :=
  Decimal.padded 2 t.hours ++ ':' :: Decimal.padded 2 t.minutes ++ ':' ::
    Decimal.padded 2 t.seconds ++ '.' :: Decimal.padded 3 t.milliseconds

/-- The canonical form. -/
def canonical (t : Timestamp) : String := String.ofList t.canonicalChars

/-! ## 2. Written timestamps -/

/-- What a timestamp is written with: its numbers, still as digits. -/
inductive Written where
  | clock (hours minutes seconds : List Char) (milliseconds : Option (List Char))
  | minutes (minutes seconds : List Char)
  | seconds (digits : List Char)
  | milliseconds (digits : List Char)
deriving DecidableEq, Repr

/-- Whether a text is a given number of digits. -/
def isDigits (n : Nat) (s : List Char) : Bool := s.length == n && s.all isDigit

/-- Reads the seconds of a clock: two digits, with a dot and three digits after them or not. -/
def clockSeconds? (s : List Char) : Option (List Char × Option (List Char)) :=
  if isDigits 2 s then some (s, none)
  else if isDigits 2 (s.take 2) && (s.drop 2).head? == some '.' && isDigits 3 (s.drop 3) then
    some (s.take 2, some (s.drop 3))
  else none

/-- Reads digits with a unit. -/
def unit? (s : List Char) : Option Written :=
  let cut := splitBefore (fun c => !isDigit c) s
  if cut.1.isEmpty then none
  else if cut.2 = ['m', 's'] then some (.milliseconds cut.1)
  else if cut.2 = ['s'] then some (.seconds cut.1)
  else none

/-- Recognises a timestamp by the texts between its colons. -/
def recognize? (s : List Char) : Option Written :=
  match s.splitOn ':' with
  | [h, m, sec] =>
    if 2 ≤ h.length ∧ h.all isDigit ∧ isDigits 2 m then
      (clockSeconds? sec).map fun p => .clock h m p.1 p.2
    else none
  | [m, sec] => if isDigits 2 m && isDigits 2 sec then some (.minutes m sec) else none
  | _ => unit? s

/-- The style of what is written. -/
def Written.style : Written → Style
  | .clock .. => .clock
  | .minutes .. => .minutes
  | .seconds _ => .unit
  | .milliseconds _ => .unit

/-- The number of milliseconds that is denoted, of any size. -/
def Written.value : Written → Nat
  | .clock h m s ms =>
    ((Decimal.value h * 60 + Decimal.value m) * 60 + Decimal.value s) * 1000 +
      (match ms with
      | some ms => Decimal.value ms
      | none => 0)
  | .minutes m s => (Decimal.value m * 60 + Decimal.value s) * 1000
  | .seconds n => Decimal.value n * 1000
  | .milliseconds n => Decimal.value n

/-! ## 3. Reading -/

/-- Reads digits as a word. -/
def word? (s : List Char) : Option Nat := Decimal.readUpTo? Word.max64 s

/-- The milliseconds of a clock reading, computed in words. -/
def clockMillis? (hours minutes seconds milliseconds : Nat) : Option Nat := do
  let n ← Word.mul? hours 60
  let n ← Word.add? n minutes
  let n ← Word.mul? n 60
  let n ← Word.add? n seconds
  let n ← Word.mul? n 1000
  Word.add? n milliseconds

/-- The milliseconds that are denoted, computed in words. -/
def Written.millis? : Written → Option Nat
  | .clock h m s none => do clockMillis? (← word? h) (← word? m) (← word? s) 0
  | .clock h m s (some ms) => do clockMillis? (← word? h) (← word? m) (← word? s) (← word? ms)
  | .minutes m s => do clockMillis? 0 (← word? m) (← word? s) 0
  | .seconds n => do Word.mul? (← word? n) 1000
  | .milliseconds n => word? n

/-- The style of a text, if it is a timestamp. -/
def style? (s : String) : Option Style := (recognize? s.toList).map Written.style

/-- Whether a text is a timestamp. -/
def isValid (s : String) : Bool := (recognize? s.toList).isSome

/-- The point that a text denotes, if it is a timestamp whose milliseconds fit 64 bits. -/
def parse? (s : String) : Option Timestamp :=
  (recognize? s.toList).bind fun w => w.millis?.map Timestamp.mk

/-- The canonical form of a timestamp in any style. -/
def canonical? (s : String) : Option String := (parse? s).map canonical

end Timestamp

end LecturePlan

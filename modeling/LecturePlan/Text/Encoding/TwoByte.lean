import LecturePlan.Text.Encoding.Index.Big5
import LecturePlan.Text.Encoding.Index.Hangul
import LecturePlan.Text.Encoding.Index.Jis0208
import LecturePlan.Text.Encoding.Stepwise
/-!
# Encodings of one or two bytes

A byte is a character of its own, or leads a pair.  A pair that is no character gives nothing, and if
its second byte is ASCII, that byte is read again.  So are Big5, Shift JIS and the Korean encoding.
-/

namespace LecturePlan.Text

/-- An encoding whose characters take one or two bytes. -/
structure TwoByte where
  /-- The character that a byte is for itself. -/
  single? : Nat → Option Char
  /-- Whether a byte leads a pair. -/
  isLead : Nat → Bool
  /-- The characters of a pair, none if it is none. -/
  pair : Nat → Nat → List Char

namespace TwoByte

/-- Whether a byte is ASCII. -/
def isAscii (n : Nat) : Bool := n < 0x80

/-- A byte of ASCII as a character. -/
def ascii? (n : Nat) : Option Char := if isAscii n then some (Char.ofNat n) else none

/-- The steps of an encoding, with the first byte of a pair pending. -/
def steps (e : TwoByte) : Stepwise (Option Nat) where
  start := none
  finish := unfinished
  step
    | none, b => if e.isLead b.toNat then ([], some b.toNat) else ([e.single? b.toNat], none)
    | some lead, b =>
      match e.pair lead b.toNat with
      | [] => (none :: (ascii? b.toNat).toList.map some, none)
      | chars => (chars.map some, none)

/-- Reads bytes. -/
def decode (e : TwoByte) (bytes : List UInt8) : List (Option Char) := e.steps.read bytes

/-! ## 1. Big5 -/

/-- The pairs that are a letter with an accent of its own. -/
def accented : List (Nat × List Char) := [
  (1133, ['\u00CA', '\u0304']), (1135, ['\u00CA', '\u030C']),
  (1164, ['\u00EA', '\u0304']), (1166, ['\u00EA', '\u030C'])]

/-- The traditional Chinese encoding. -/
def big5 : TwoByte where
  single? := ascii?
  isLead n := 0x81 ≤ n && n ≤ 0xFE
  pair lead b :=
    if (0x40 ≤ b && b ≤ 0x7E) || (0xA1 ≤ b && b ≤ 0xFE) then
      let n := (lead - 0x81) * 157 + (b - if b < 0x7F then 0x40 else 0x62)
      ((accented.lookup n).or ((Index.big5.char? n).map fun c => [c])).getD []
    else []

/-! ## 2. The Korean encoding -/

/-- The Korean encoding. -/
def eucKr : TwoByte where
  single? := ascii?
  isLead n := 0x81 ≤ n && n ≤ 0xFE
  pair lead b :=
    if 0x41 ≤ b && b ≤ 0xFE then
      (Index.hangul.char? ((lead - 0x81) * 190 + (b - 0x41))).toList
    else []

/-! ## 3. Shift JIS -/

/-- A narrow Japanese syllable, given its distance from the first one. -/
def narrowSyllable (n : Nat) : Char := Char.ofNat (0xFF61 + n)

/-- The numbers of the plane that are left to its users, and their first code point. -/
def privateNumbers : Nat × Nat × Nat := (8836, 10715, 0xE000)

/-- The Japanese encoding whose leads leave room for narrow syllables. -/
def shiftJis : TwoByte where
  single? n :=
    if n ≤ 0x80 then some (Char.ofNat n)
    else if 0xA1 ≤ n && n ≤ 0xDF then some (narrowSyllable (n - 0xA1))
    else none
  isLead n := (0x81 ≤ n && n ≤ 0x9F) || (0xE0 ≤ n && n ≤ 0xFC)
  pair lead b :=
    if (0x40 ≤ b && b ≤ 0x7E) || (0x80 ≤ b && b ≤ 0xFC) then
      let row := lead - if lead < 0xA0 then 0x81 else 0xC1
      let n := row * 188 + (b - if b < 0x7F then 0x40 else 0x41)
      let (first, last, code) := privateNumbers
      if first ≤ n && n ≤ last then [Char.ofNat (code + (n - first))]
      else (Index.jis0208.char? n).toList
    else []

end TwoByte

end LecturePlan.Text

import LecturePlan.Text.Encoding.Index.Jis0212
import LecturePlan.Text.Encoding.TwoByte
/-!
# The Japanese encoding of Unix

A character is a byte of ASCII, a pair of upper bytes, or a byte that selects another set, followed by
a narrow syllable or a pair.  Main definition: `decode`.
-/

namespace LecturePlan.Text.EucJp

/-- What is pending. -/
inductive Pending where
  | nothing
  /-- The selector of narrow syllables. -/
  | narrow
  /-- The selector of the supplementary set. -/
  | supplement
  /-- The first byte of a pair. -/
  | lead (n : Nat)
  /-- The first byte of a pair of the supplementary set. -/
  | supplementLead (n : Nat)
deriving DecidableEq

/-- Whether a byte may stand in a pair. -/
def isPairByte (n : Nat) : Bool := 0xA1 ≤ n && n ≤ 0xFE

/-- The character of a pair in a set. -/
def pair? (set : Index) (first second : Nat) : Option Char :=
  if isPairByte first && isPairByte second then set.char? ((first - 0xA1) * 94 + (second - 0xA1))
  else none

/-- Reads what should have been a character; if it is none, and its last byte is ASCII, that is read
for itself. -/
def complete (c : Option Char) (b : Nat) : Progressed Pending :=
  match c with
  | some c => ([some c], .nothing)
  | none => (none :: (TwoByte.ascii? b).toList.map some, .nothing)

/-- Reads a byte. -/
def step (p : Pending) (b : UInt8) : Progressed Pending :=
  let n := b.toNat
  match p with
  | .nothing =>
    if TwoByte.isAscii n then ([some (Char.ofNat n)], .nothing)
    else if n = 0x8E then ([], .narrow)
    else if n = 0x8F then ([], .supplement)
    else if isPairByte n then ([], .lead n)
    else ([none], .nothing)
  | .narrow =>
    complete (if 0xA1 ≤ n && n ≤ 0xDF then some (TwoByte.narrowSyllable (n - 0xA1)) else none) n
  | .supplement => if isPairByte n then ([], .supplementLead n) else complete none n
  | .lead first => complete (pair? Index.jis0208 first n) n
  | .supplementLead first => complete (pair? Index.jis0212 first n) n

/-- The steps of this encoding. -/
def steps : Stepwise Pending where
  start := .nothing
  step := step
  finish p := if p = .nothing then [] else [none]

/-- Reads bytes. -/
def decode (bytes : List UInt8) : List (Option Char) := steps.read bytes

end LecturePlan.Text.EucJp

import LecturePlan.Pdf.Lexeme
/-!
# Bytes as printable text

Four bytes are a number below 2³², and a number is written as five digits to base 85, the characters
from `!` to `u`.  Four zero bytes may be written as `z`.  A last group of fewer than four bytes has one
digit more than it has bytes.  Main definition: `decode?`.
-/

namespace LecturePlan.Pdf.Ascii85

/-- The value of a digit. -/
def digit? (c : Char) : Option Nat := if '!' ≤ c ∧ c ≤ 'u' then some (c.toNat - 33) else none

/-- White space between digits, which has no meaning. -/
def isSpace (c : Char) : Bool := isWhite c && c != '\x00'

/-- The four bytes of a number, the high one first. -/
def bytes (n : Nat) : List UInt8 :=
  [n / 0x1000000, n / 0x10000, n / 0x100, n].map Nat.toUInt8

/-- The bytes of a group of at most five digits.  Missing digits count as the highest one. -/
def decodeGroup? (digits : List Nat) : Option (List UInt8) :=
  let n := (digits ++ List.replicate (5 - digits.length) 84).foldl (fun n d => n * 85 + d) 0
  if digits.isEmpty then some []
  else if n ≤ Word.max32 then some ((bytes n).take (digits.length - 1))
  else none

/-- Reads text up to its end mark, `group` being the digits of the group in progress. -/
def decodeFrom? (group : List Nat) : List Char → Option (List UInt8)
  | [] => decodeGroup? group
  | '~' :: _ => decodeGroup? group
  | c :: s =>
    if isSpace c then decodeFrom? group s
    else if c = 'z' then
      if group.isEmpty then (decodeFrom? [] s).map (bytes 0 ++ ·) else none
    else do
      let d ← digit? c
      if group.length < 4 then decodeFrom? (group ++ [d]) s
      else
        let found ← decodeGroup? (group ++ [d])
        let more ← decodeFrom? [] s
        pure (found ++ more)

/-- The bytes that a text stands for. -/
def decode? (s : List Char) : Option (List UInt8) := decodeFrom? [] s

end LecturePlan.Pdf.Ascii85

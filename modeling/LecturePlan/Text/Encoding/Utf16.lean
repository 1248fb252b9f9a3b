import LecturePlan.Text.Encoding.Stepwise
/-!
# UTF-16

Two bytes are a unit.  A unit is a character, or half of one; halves that do not meet, and a byte
left over at the end, give nothing.  Main definition: `decode`.
-/

namespace LecturePlan.Text.Utf16

/-- Which byte of a unit comes first. -/
inductive ByteOrder where
  | littleEndian
  | bigEndian
deriving DecidableEq, Repr

/-- The unit of two bytes. -/
def ByteOrder.unit (o : ByteOrder) (first second : UInt8) : Nat :=
  match o with
  | .littleEndian => second.toNat * 256 + first.toNat
  | .bigEndian => first.toNat * 256 + second.toNat

/-- Whether a unit is the first half of a character. -/
def isLead (unit : Nat) : Bool := 0xD800 ≤ unit && unit ≤ 0xDBFF

/-- Whether a unit is the second half of a character. -/
def isTrail (unit : Nat) : Bool := 0xDC00 ≤ unit && unit ≤ 0xDFFF

/-- The character of two halves. -/
def join (lead trail : Nat) : Char :=
  Char.ofNat (0x10000 + (lead - 0xD800) * 0x400 + (trail - 0xDC00))

/-- Half of a unit, and half of a character before it. -/
structure Pending where
  byte : Option UInt8
  half : Option Nat
deriving DecidableEq

/-- Reads a unit behind the first half of a character, or behind none. -/
def readUnit (half : Option Nat) (unit : Nat) : Progressed Pending :=
  match half, isLead unit, isTrail unit with
  | none, true, _ => ([], ⟨none, some unit⟩)
  | none, false, true => ([none], ⟨none, none⟩)
  | none, false, false => ([some (Char.ofNat unit)], ⟨none, none⟩)
  | some _, true, _ => ([none], ⟨none, some unit⟩)
  | some lead, false, true => ([some (join lead unit)], ⟨none, none⟩)
  | some _, false, false => ([none, some (Char.ofNat unit)], ⟨none, none⟩)

/-- The steps of UTF-16. -/
def steps (o : ByteOrder) : Stepwise Pending where
  start := ⟨none, none⟩
  step p b :=
    match p.byte with
    | none => ([], { p with byte := some b })
    | some a => readUnit p.half (o.unit a b)
  finish p := if p.byte.isSome || p.half.isSome then [none] else []

/-- Reads a text; bytes that are no characters give nothing. -/
def decode (o : ByteOrder) (bytes : List UInt8) : List (Option Char) := (steps o).read bytes

end LecturePlan.Text.Utf16

import LecturePlan.Text.Encoding.TwoByte
/-!
# The Japanese encoding of mail

All bytes are below 128, and sequences of three bytes, of which the first is the escape character,
say what the following bytes mean.  Main definition: `decode`.
-/

namespace LecturePlan.Text.Iso2022Jp

/-- What bytes mean. -/
inductive Mode where
  | ascii
  /-- ASCII with a yen sign and an overline. -/
  | roman
  /-- Narrow syllables. -/
  | narrow
  /-- Pairs. -/
  | pairs
deriving DecidableEq

/-- What is pending. -/
inductive Pending where
  | nothing
  /-- The first byte of a pair. -/
  | lead (n : Nat)
  | escape
  /-- The escape character and the byte behind it. -/
  | escaped (n : Nat)
deriving DecidableEq

/-- What is pending, what bytes mean, and whether the last thing read was an escape sequence. -/
structure State where
  pending : Pending
  mode : Mode
  fresh : Bool
deriving DecidableEq

/-- The escape character. -/
def escapeByte : Nat := 0x1B

/-- Bytes that are never characters of ASCII here. -/
def isShift (n : Nat) : Bool := n == 0x0E || n == 0x0F || n == escapeByte

/-- The character of a byte in a mode without pairs. -/
def single? (m : Mode) (n : Nat) : Option Char :=
  match m with
  | .ascii => if TwoByte.isAscii n && !isShift n then some (Char.ofNat n) else none
  | .roman =>
    if n = 0x5C then some '¥'
    else if n = 0x7E then some '‾'
    else if TwoByte.isAscii n && !isShift n then some (Char.ofNat n)
    else none
  | .narrow =>
    if 0x21 ≤ n && n ≤ 0x5F then some (TwoByte.narrowSyllable (n - 0x21)) else none
  | .pairs => none

/-- Whether a byte may stand in a pair. -/
def isPairByte (n : Nat) : Bool := 0x21 ≤ n && n ≤ 0x7E

/-- Reads a byte with nothing pending. -/
def readPlain (s : State) (n : Nat) : Progressed State :=
  if n = escapeByte then ([], { s with pending := .escape })
  else if s.mode = .pairs && isPairByte n then ([], { s with pending := .lead n, fresh := false })
  else ([single? s.mode n], { s with pending := .nothing, fresh := false })

/-- Reads the second byte of a pair. -/
def readSecond (s : State) (first n : Nat) : Progressed State :=
  if n = escapeByte then ([none], { s with pending := .escape })
  else
    let c := if isPairByte n then Index.jis0208.char? ((first - 0x21) * 94 + (n - 0x21)) else none
    ([c], { s with pending := .nothing })

/-- The mode of an escape sequence. -/
def modeOf? (first second : Nat) : Option Mode :=
  if first = 0x28 ∧ second = 0x42 then some .ascii
  else if first = 0x28 ∧ second = 0x4A then some .roman
  else if first = 0x28 ∧ second = 0x49 then some .narrow
  else if first = 0x24 ∧ (second = 0x40 ∨ second = 0x42) then some .pairs
  else none

/-- Reads a byte with nothing or the first byte of a pair pending. -/
def readByte (s : State) (n : Nat) : Progressed State :=
  match s.pending with
  | .lead first => readSecond s first n
  | _ => readPlain s n

/-- What is wrong if bytes behind the escape character do not belong to it. -/
def plain (s : State) : State := { s with pending := .nothing, fresh := false }

/-- Reads a byte.  Two escape sequences without a character between them are an error. -/
def step (s : State) (b : UInt8) : Progressed State :=
  let n := b.toNat
  match s.pending with
  | .escape =>
    if n = 0x24 ∨ n = 0x28 then ([], { s with pending := .escaped n })
    else
      let read := readByte (plain s) n
      (none :: read.1, read.2)
  | .escaped first =>
    match modeOf? first n with
    | some mode => (if s.fresh then [none] else [], ⟨.nothing, mode, true⟩)
    | none =>
      let one := readByte (plain s) first
      let two := readByte one.2 n
      (none :: one.1 ++ two.1, two.2)
  | _ => readByte s n

/-- What is wrong at the end: a byte behind the escape character is read for itself. -/
def finish (s : State) : List (Option Char) :=
  match s.pending with
  | .nothing => []
  | .lead _ => [none]
  | .escape => [none]
  | .escaped first =>
    let read := readByte (plain s) first
    none :: read.1 ++ (if read.2.pending = .nothing then [] else [none])

/-- The steps of this encoding. -/
def steps : Stepwise State := ⟨⟨.nothing, .ascii, false⟩, step, finish⟩

/-- Reads bytes. -/
def decode (bytes : List UInt8) : List (Option Char) := steps.read bytes

end LecturePlan.Text.Iso2022Jp

import LecturePlan.Pdf.Lexeme
/-!
# Data compressed by a growing table

The data is a list of codes.  A code below 256 is a byte.  Every code after the first one adds a word to
a table: that of the code before and the first byte of its own.  Two codes clear the table and end the
data.  Codes are wide enough for the table as it is and grow with it, from nine bits to twelve.  Data
that ends early gives what was read until then, broken data only what stood before the last clearing.
Main definition: `expand`.
-/

namespace LecturePlan.Pdf.Lzw

/-- The code that clears the table. -/
def clearCode : Nat := 256

/-- The code that ends the data. -/
def endCode : Nat := 257

/-- The code of the first word of the table. -/
def firstWord : Nat := 258

/-- The width of codes while the table is small. -/
def minWidth : Nat := 9

/-- The width that codes do not outgrow. -/
def maxWidth : Nat := 12

/-- How many codes there may be. -/
def maxCodes : Nat := 4096

/-- The bits of bytes, the high ones of a byte first. -/
def bitsOf (bytes : List UInt8) : List Bool :=
  bytes.flatMap fun b => (List.range 8).reverse.map b.toNat.testBit

/-- Reads a code of some bits, the high ones first; `high` is the number that was read before. -/
def readCode? (high : Nat) : Nat → List Bool → Option (Nat × List Bool)
  | 0, s => some (high, s)
  | _ + 1, [] => none
  | width + 1, b :: s => readCode? (2 * high + b.toNat) width s

/-- What is known while codes are read. -/
structure State where
  width : Nat
  words : Array (List UInt8)
  /-- The word of the code before, unless the table was just cleared. -/
  previous : Option (List UInt8)
  out : Array UInt8
  /-- How many bytes there were when the table was cleared. -/
  cleared : Nat

namespace State

/-- Before the first code, which may be a byte. -/
def start : State := ⟨minWidth, #[], none, #[], 0⟩

/-- The code of the next word of the table. -/
def next (x : State) : Nat := firstWord + x.words.size

/-- The word of a code.  The code of the next word may be used at once. -/
def word? (x : State) (code : Nat) : Option (List UInt8) :=
  if code < clearCode then some [code.toUInt8]
  else match x.previous with
    | none => none
    | some previous =>
      if code = x.next then some (previous ++ previous.take 1) else x.words[code - firstWord]?

/-- Clears the table. -/
def clear (x : State) : State :=
  { x with width := minWidth, words := #[], previous := none, cleared := x.out.size }

/-- Adds a word to the table, unless it is full.  Codes grow as soon as the next code would not fit, or
one code before that. -/
def learn (early : Bool) (x : State) (word : List UInt8) : State :=
  match x.previous with
  | none => x
  | some previous =>
    if maxCodes ≤ x.next then x
    else
      let grown := 1 <<< x.width ≤ x.next + 1 + early.toNat ∧ x.width < maxWidth
      { x with
        width := if grown then x.width + 1 else x.width
        words := x.words.push (previous ++ word.take 1) }

/-- Takes a word. -/
def take (early : Bool) (x : State) (word : List UInt8) : State :=
  { x.learn early word with previous := some word, out := x.out ++ word }

end State

/-- Reads codes.  Every code takes at least one bit. -/
def expandFrom (early : Bool) : Nat → State → List Bool → Array UInt8
  | 0, x, _ => x.out
  | fuel + 1, x, s =>
    match readCode? 0 x.width s with
    | none => x.out
    | some (code, s) =>
      if code = clearCode then expandFrom early fuel x.clear s
      else if code = endCode then x.out
      else match x.word? code with
        | none => x.out.extract 0 x.cleared
        | some word => expandFrom early fuel (x.take early word) s

/-- The data that was compressed to some bytes, as far as it can be read.  With `early`, codes grow one
code before they have to. -/
def expand (early : Bool) (bytes : List UInt8) : List UInt8 :=
  let s := bitsOf bytes
  (expandFrom early (s.length + 1) .start s).toList

end LecturePlan.Pdf.Lzw

/-!
# Compressed data

Data compressed by the deflate method in its zlib wrapping: a header, blocks of literal bytes and
repetitions of earlier ones, and a checksum.  The words of a block are those of canonical prefix
codes.  Data that ends early gives what was read until then, broken data only the whole windows of
it.  Main definition: `inflate`.
-/

namespace LecturePlan.Pdf.Deflate

/-- Why reading ends before its end. -/
inductive Fault where
  /-- The data ends early. -/
  | cut
  /-- The data breaks the rules. -/
  | broken
deriving DecidableEq, Repr

/-! ## 1. Bits -/

/-- The bits of bytes, the low ones of a byte first. -/
def bitsOf (bytes : List UInt8) : List Bool :=
  bytes.flatMap fun b => (List.range 8).map b.toNat.testBit

/-- Reads a number of some bits, the low ones first. -/
def readBits : Nat → List Bool → Except Fault (Nat × List Bool)
  | 0, s => .ok (0, s)
  | _ + 1, [] => .error .cut
  | n + 1, b :: s => do
    let (rest, s) ← readBits n s
    pure (b.toNat + 2 * rest, s)

/-- Skips the rest of a byte that is not read to its end. -/
def alignByte (s : List Bool) : List Bool := s.drop (s.length % 8)

/-! ## 2. Prefix codes -/

/-- A canonical prefix code: how many words there are of each length, from one bit to the longest, and
the symbols in the order of their words. -/
structure Code where
  counts : List Nat
  symbols : Array Nat

namespace Code

/-- The code in which each symbol has a word of a given length, or none where that is zero.  One bit
is looked at in a code without words, too. -/
def ofLengths (lengths : List Nat) : Code :=
  let longest := lengths.foldl max 1
  { counts := (List.range longest).map fun n => lengths.count (n + 1)
    symbols := ((List.range longest).flatMap fun n =>
      (lengths.zipIdx.filter fun e => e.1 == n + 1).map Prod.snd).toArray }

/-- How many words of a length are left when the words of a code up to that length, and all that begin
with one of them, are taken away.  Below zero, the code is ambiguous. -/
def spare (c : Code) : Int := c.counts.foldl (fun (n : Int) (k : Nat) => 2 * n - k) 1

/-- Whether every long enough word begins with just one word of the code. -/
def isComplete (c : Code) : Bool := c.spare == 0

/-- Reads a symbol.  `counts` are those of the lengths to come, `word` the bits read so far, `first`
the first word of the next length with its last bit taken away, and `index` the number of symbols
with shorter words. -/
def readFrom (symbols : Array Nat) :
    List Nat → Nat → Nat → Nat → List Bool → Except Fault (Nat × List Bool)
  | [], _, _, _, _ => .error .broken
  | _ :: _, _, _, _, [] => .error .cut
  | count :: counts, word, first, index, b :: s =>
    let word := 2 * word + b.toNat
    let first := 2 * first
    if word < first + count then
      match symbols[index + (word - first)]? with
      | some symbol => .ok (symbol, s)
      | none => .error .broken
    else readFrom symbols counts word (first + count) (index + count) s

/-- Reads a symbol. -/
def read (c : Code) (s : List Bool) : Except Fault (Nat × List Bool) :=
  readFrom c.symbols c.counts 0 0 0 s

/-- Whether a code may be used for the symbols of a block: it is complete, or it has no word, or just
one word of one bit. -/
def isUsable (c : Code) : Bool := c.isComplete || c.counts == [0] || c.counts == [1]

end Code

/-- The codes of a block: of literals and lengths, and of distances. -/
structure Codes where
  literals : Code
  distances : Code

/-- The codes of a block that brings none of its own. -/
def Codes.fixed : Codes where
  literals := .ofLengths (List.replicate 144 8 ++ List.replicate 112 9 ++ List.replicate 24 7 ++
    List.replicate 8 8)
  distances := .ofLengths (List.replicate 32 5)

/-- The order in which the lengths of the code for lengths are given. -/
def lengthOrder : List Nat := [16, 17, 18, 0, 8, 7, 9, 6, 10, 5, 11, 4, 12, 3, 13, 2, 14, 1, 15]

/-- Reads numbers of three bits. -/
def readTriples : Nat → List Bool → Except Fault (List Nat × List Bool)
  | 0, s => .ok ([], s)
  | n + 1, s => do
    let (k, s) ← readBits 3 s
    let (ks, s) ← readTriples n s
    pure (k :: ks, s)

/-- Reads the lengths of words, `found` being those read so far, in reverse order. -/
def readLengths (c : Code) (total : Nat) : Nat → List Nat → List Bool →
    Except Fault (List Nat × List Bool)
  | 0, _, _ => .error .broken
  | fuel + 1, found, s =>
    if found.length = total then .ok (found.reverse, s)
    else if total < found.length then .error .broken
    else do
      let (symbol, s) ← c.read s
      if symbol < 16 then readLengths c total fuel (symbol :: found) s
      else if symbol = 16 then
        match found with
        | [] => .error .broken
        | last :: _ =>
          let (n, s) ← readBits 2 s
          readLengths c total fuel (List.replicate (n + 3) last ++ found) s
      else if symbol = 17 then
        let (n, s) ← readBits 3 s
        readLengths c total fuel (List.replicate (n + 3) 0 ++ found) s
      else
        let (n, s) ← readBits 7 s
        readLengths c total fuel (List.replicate (n + 11) 0 ++ found) s

/-- Reads the codes that a block brings. -/
def readCodes (s : List Bool) : Except Fault (Codes × List Bool) := do
  let (literals, s) ← readBits 5 s
  let (distances, s) ← readBits 5 s
  let (lengths, s) ← readBits 4 s
  let (literals, distances) := (literals + 257, distances + 1)
  if 286 < literals ∨ 30 < distances then throw .broken
  let (given, s) ← readTriples (lengths + 4) s
  let code := Code.ofLengths ((List.range 19).map fun k =>
    ((lengthOrder.zip given).lookup k).getD 0)
  if !code.isComplete then throw .broken
  let total := literals + distances
  let (all, s) ← readLengths code total (total + 1) [] s
  let codes : Codes := ⟨.ofLengths (all.take literals), .ofLengths (all.drop literals)⟩
  if codes.literals.isUsable && codes.distances.isUsable then pure (codes, s) else throw .broken

/-! ## 3. Blocks -/

/-- The lengths of repetitions: the least one, and how many bits are added to it. -/
def lengthTable : List (Nat × Nat) := [
  (3, 0), (4, 0), (5, 0), (6, 0), (7, 0), (8, 0), (9, 0), (10, 0), (11, 1), (13, 1), (15, 1),
  (17, 1), (19, 2), (23, 2), (27, 2), (31, 2), (35, 3), (43, 3), (51, 3), (59, 3), (67, 4), (83, 4),
  (99, 4), (115, 4), (131, 5), (163, 5), (195, 5), (227, 5), (258, 0)]

/-- The distances of repetitions: the least one, and how many bits are added to it. -/
def distanceTable : List (Nat × Nat) := [
  (1, 0), (2, 0), (3, 0), (4, 0), (5, 1), (7, 1), (9, 2), (13, 2), (17, 3), (25, 3), (33, 4),
  (49, 4), (65, 5), (97, 5), (129, 6), (193, 6), (257, 7), (385, 7), (513, 8), (769, 8), (1025, 9),
  (1537, 9), (2049, 10), (3073, 10), (4097, 11), (6145, 11), (8193, 12), (12289, 12), (16385, 13),
  (24577, 13)]

/-- Reads the bits that are added to an entry of a table. -/
def readEntry (table : List (Nat × Nat)) (index : Nat) (s : List Bool) :
    Except Fault (Nat × List Bool) :=
  match table[index]? with
  | none => .error .broken
  | some (least, bits) => (readBits bits s).map fun p => (least + p.1, p.2)

/-- Reads the length and the distance of a repetition. -/
def readRepetition (codes : Codes) (symbol : Nat) (s : List Bool) :
    Except Fault ((Nat × Nat) × List Bool) := do
  let (length, s) ← readEntry lengthTable (symbol - 257) s
  let (index, s) ← codes.distances.read s
  let (distance, s) ← readEntry distanceTable index s
  pure ((length, distance), s)

/-- The byte at a distance from the end; before the beginning there are zeros. -/
def byteBack (distance : Nat) (out : Array UInt8) : UInt8 :=
  if distance ≤ out.size then out[out.size - distance]?.getD 0 else 0

/-- Repeats bytes from a distance, one after the other. -/
def repeatFrom (distance : Nat) : Nat → Array UInt8 → Array UInt8
  | 0, out => out
  | n + 1, out => repeatFrom distance n (out.push (byteBack distance out))

/-- Reads the symbols of a block, and what they say is written behind `out`.  Every symbol takes
at least one bit. -/
def readSymbols (codes : Codes) : Nat → Array UInt8 → List Bool →
    Array UInt8 × Except Fault (List Bool)
  | 0, out, _ => (out, .error .cut)
  | fuel + 1, out, s =>
    match codes.literals.read s with
    | .error e => (out, .error e)
    | .ok (symbol, s) =>
      if symbol < 256 then readSymbols codes fuel (out.push symbol.toUInt8) s
      else if symbol = 256 then (out, .ok s)
      else match readRepetition codes symbol s with
        | .error e => (out, .error e)
        | .ok ((length, distance), s) => readSymbols codes fuel (repeatFrom distance length out) s

/-- Reads bytes as they are. -/
def readBytes : Nat → Array UInt8 → List Bool → Array UInt8 × Except Fault (List Bool)
  | 0, out, s => (out, .ok s)
  | n + 1, out, s =>
    match readBits 8 s with
    | .error e => (out, .error e)
    | .ok (b, s) => readBytes n (out.push b.toUInt8) s

/-- Reads the length of a block of bytes, which is given twice, the second time inverted. -/
def readBlockLength (s : List Bool) : Except Fault (Nat × List Bool) := do
  let (length, s) ← readBits 16 (alignByte s)
  let (inverted, s) ← readBits 16 s
  if length + inverted = 0xFFFF then pure (length, s) else throw .broken

/-- Reads a block of a kind. -/
def readBlock (kind : Nat) (out : Array UInt8) (s : List Bool) :
    Array UInt8 × Except Fault (List Bool) :=
  if kind = 0 then
    match readBlockLength s with
    | .error e => (out, .error e)
    | .ok (length, s) => readBytes length out s
  else if kind = 1 then readSymbols .fixed (s.length + 1) out s
  else if kind = 2 then
    match readCodes s with
    | .error e => (out, .error e)
    | .ok (codes, s) => readSymbols codes (s.length + 1) out s
  else (out, .error .broken)

/-- Reads whether a block is the last one, and its kind. -/
def readBlockHead (s : List Bool) : Except Fault ((Bool × Nat) × List Bool) := do
  let (last, s) ← readBits 1 s
  let (kind, s) ← readBits 2 s
  pure ((last = 1, kind), s)

/-- Reads blocks up to the last one.  Every block takes at least one bit. -/
def readBlocks : Nat → Array UInt8 → List Bool → Array UInt8 × Except Fault (List Bool)
  | 0, out, _ => (out, .error .cut)
  | fuel + 1, out, s =>
    match readBlockHead s with
    | .error e => (out, .error e)
    | .ok ((last, kind), s) =>
      match readBlock kind out s with
      | (out, .ok s) => if last then (out, .ok s) else readBlocks fuel out s
      | failed => failed

/-! ## 4. The wrapping -/

/-- Whether two bytes are the header of data that needs no dictionary. -/
def isHeader (first second : UInt8) : Bool :=
  let (a, b) := (first.toNat, second.toNat)
  (a * 256 + b) % 31 == 0 && a % 16 == 8 && a / 16 ≤ 7 && !b.testBit 5

/-- The checksum of bytes: two sums, the second one of the first ones. -/
def checksum (bytes : Array UInt8) : Nat :=
  let sums := bytes.foldl (fun (a, b) byte =>
    let a := (a + byte.toNat) % 65521
    (a, (b + a) % 65521)) (1, 0)
  sums.2 * 0x10000 + sums.1

/-- Reads the checksum behind the blocks. -/
def readChecksum (s : List Bool) : Except Fault Nat := do
  let (a, s) ← readBits 8 (alignByte s)
  let (b, s) ← readBits 8 s
  let (c, s) ← readBits 8 s
  let (d, _) ← readBits 8 s
  pure (((a * 256 + b) * 256 + c) * 256 + d)

/-- How many bytes are given out at a time. -/
def windowSize : Nat := 0x8000

/-- What is left of data that turns out to be broken: of the windows up to its end all but the last
one. -/
def wholeWindows (out : Array UInt8) : List UInt8 :=
  out.toList.take (windowSize * ((out.size - 1) / windowSize))

/-- The data that was compressed to some bytes, as far as it can be read. -/
def inflate (bytes : List UInt8) : List UInt8 :=
  match bytes with
  | first :: second :: rest =>
    if !isHeader first second then []
    else
      let s := bitsOf rest
      let read := readBlocks (s.length + 1) #[] s
      match read.2.bind readChecksum with
      | .ok sum => if sum = checksum read.1 then read.1.toList else wholeWindows read.1
      | .error .cut => read.1.toList
      | .error .broken => wholeWindows read.1
  | _ => []

end LecturePlan.Pdf.Deflate

import LecturePlan.Pdf.Stream
/-!
# Cross references

Near the end of a PDF file stands where its cross references begin.  They tell where the objects
are, as a table or packed in a stream, and lead to those of the revision before.  Of an object that
several revisions list, the latest place counts.  Main definition: `Index.ofFile?`.
-/

namespace LecturePlan.Pdf

open LecturePlan.Text

/-- Where an object is. -/
inductive Place where
  /-- At an offset in the file. -/
  | offset (n generation : Nat)
  /-- In the stream of another object. -/
  | packed
deriving DecidableEq, Repr

/-- The places of objects, by number. -/
abbrev Places := List (Nat × Place)

/-- What cross references say: the places of the objects, and the dictionary that goes with them. -/
structure Index where
  places : Places
  trailer : Dictionary

namespace Index

/-! ## 1. Tables -/

/-- What follows the end of a line of a table, which takes two characters. -/
def afterEntry? : List Char → Option (List Char)
  | ' ' :: '\r' :: s => some s
  | ' ' :: '\n' :: s => some s
  | '\r' :: '\n' :: s => some s
  | _ => none

/-- Reads an entry: the place that it tells, unless its number is free, and what follows. -/
def readEntry? (s : List Char) : Option (Option Place × List Char) := do
  let (offset, s) ← readNat? Word.max32 s
  let (generation, s) ← readNat? Word.max32 (← after? " " s)
  match ← after? " " s with
  | 'n' :: s => pure (if generation ≤ Word.max16 then some (.offset offset generation) else none,
      ← afterEntry? s)
  | 'f' :: s => pure (none, ← afterEntry? s)
  | _ => none

/-- Numbers of objects have 32 bits. -/
def numberOf (n : Int) : Nat := (n % (Word.max32 + 1)).toNat

/-- Reads entries as long as there are any; `number` is that of the first one. -/
def readEntries : Nat → Nat → List Char → Places × List Char
  | 0, _, s => ([], s)
  | fuel + 1, number, s =>
    match readEntry? s with
    | none => ([], s)
    | some (place, rest) =>
      let more := readEntries fuel (number + 1) rest
      (place.toList.map (numberOf number, ·) ++ more.1, more.2)

/-- Reads a section: the number of its first entry, how many it claims to have, and its entries. -/
def readSection? (s : List Char) : Option (Places × List Char) := do
  let (first, s) ← readNat? Word.max64 s
  let (_, s) ← readNat? Word.max32 (← after? " " s)
  let s ← afterLineEnd? ((after? " " s).getD s)
  pure (readEntries s.length first s)

/-- Reads sections as long as there are any. -/
def readSections : Nat → List Char → Places × List Char
  | 0, s => ([], s)
  | fuel + 1, s =>
    match readSection? s with
    | none => ([], s)
    | some (places, rest) =>
      let more := readSections fuel rest
      (places ++ more.1, more.2)

/-- Reads a table and the dictionary behind it, which has to tell the size of the table. -/
def ofTable? (s : List Char) : Option Index := do
  let s ← afterLineEnd? (← after? "xref" s)
  let (places, rest) ← readSection? s
  let (more, rest) := readSections rest.length rest
  let (trailer, _) ← readDictionary? (skipSpace (← after? "trailer" (skipSpace rest)))
  let _ ← (trailer.get? "Size").bind Object.integer?
  -- Of places of one number the last one counts.
  pure ⟨(places ++ more).reverse, trailer⟩

/-! ## 2. Streams -/

/-- Reads a number of some bytes, the high ones first; only 32 bits of it are kept. -/
def readField? (width : Nat) (s : List Char) : Option (Nat × List Char) :=
  if s.length < width then none
  else some ((s.take width).foldl (fun n c => (n * 256 + c.toNat) % (Word.max32 + 1)) 0, s.drop width)

/-- The widths of the three fields of an entry. -/
structure Widths where
  kind : Nat
  first : Nat
  second : Nat

/-- Reads an entry: the place that it tells, if any, and what follows.  An entry of an unknown kind has
no further fields. -/
def readPacked? (w : Widths) (s : List Char) : Option (Option Place × List Char) := do
  let (kind, s) ← if w.kind = 0 then some (1, s) else readField? w.kind s
  if 2 < kind then pure (none, s)
  else
    let (first, s) ← readField? w.first s
    let (second, s) ← readField? w.second s
    match kind with
    | 0 => pure (none, s)
    | 1 => pure (some (.offset first (second % (Word.max16 + 1))), s)
    | _ => pure (some .packed, s)

/-- Reads some entries; `number` is that of the first one. -/
def readPackedEntries? (w : Widths) : Nat → Int → List Char → Option (Places × List Char)
  | 0, _, s => some ([], s)
  | count + 1, number, s => do
    let (place, s) ← readPacked? w s
    let (more, s) ← readPackedEntries? w count (number + 1) s
    pure (place.toList.map (numberOf number, ·) ++ more, s)

/-- Reads sections, each given by its first number and its number of entries. -/
def readPackedSections? (w : Widths) : List Int → List Char → Option Places
  | first :: count :: sections, s => do
    -- More entries than there are characters cannot be read.
    let (places, s) ← readPackedEntries? w (min count.toNat (s.length + 1)) first s
    let more ← readPackedSections? w sections s
    pure (places ++ more)
  | _, _ => some []

/-- The integers of an array. -/
def integers? (value : Object) : Option (List Int) := value.array?.bind (·.mapM Object.integer?)

/-- Reads a stream of cross references. -/
def ofStream? (s : List Char) : Option Index := do
  let (_, object) ← readObject? (fun _ => none) s
  match object with
  | .stream entries content =>
    let d : Dictionary := entries
    let data ← if (d.get? "Filter").isSome then data? d content else some content
    let size ← (d.get? "Size").bind Object.integer?
    let sections := ((d.get? "Index").bind integers?).getD [0, size]
    match ← (d.get? "W").bind integers? with
    | kind :: first :: second :: _ =>
      if kind < 0 ∨ first < 0 ∨ second < 0 then none
      else
        let places ← readPackedSections? ⟨kind.toNat, first.toNat, second.toNat⟩ sections data
        pure ⟨places.reverse, d⟩
    | _ => none
  | _ => none

/-! ## 3. Revisions -/

/-- Reads the cross references at an offset of a file. -/
def atOffset? (file : List Char) (offset : Int) : Option Index :=
  if offset < 0 ∨ file.length < offset then none
  else
    let s := file.drop offset.toNat
    (ofTable? s).or (ofStream? s)

/-- The index with the places of an older one added. -/
def addOlder (x : Index) (older : Places) : Index := { x with places := x.places ++ older }

/-- An offset that a dictionary tells. -/
def offset? (d : Dictionary) (key : String) : Option Int := (d.get? key).bind Object.integer?

/-- Adds the cross references of older revisions, of which the next one begins at `prev`; `seen`
holds the offsets of those that were added.  A table may come with a stream, whose places count
after those of the revision before it. -/
def addRevisions? (file : List Char) (paired : Option Int) :
    Nat → List Int → Option Int → Index → Option Index
  | 0, _, _, x => some x
  | _ + 1, _, none, x => some x
  | fuel + 1, seen, some prev, x =>
    if seen.contains prev then some x
    else do
      let older ← atOffset? file prev
      let x := x.addOlder older.places
      let x ← match paired with
        | none => some x
        | some offset => (atOffset? file offset).map fun p => x.addOlder p.places
      addRevisions? file none fuel (prev :: seen) (offset? older.trailer "Prev") x

/-- Where a mark occurs last. -/
def lastIn? (mark : List Char) : List Char → Option Nat
  | [] => none
  | c :: s =>
    match lastIn? mark s with
    | some n => some (n + 1)
    | none => if mark.isPrefixOf (c :: s) then some 0 else none

/-- Where a mark occurs last, at some position or behind it. -/
def findLast? (mark : String) (s : List Char) (start : Nat) : Option Nat :=
  (lastIn? mark.toList (s.drop start)).map (start + ·)

/-- How far from its end a file is searched for its end mark. -/
def endReach : Nat := 512

/-- How far before the end mark the place of the cross references is looked for at first. -/
def startReach : Nat := 25

/-- What follows spaces. -/
def skipSpaces (s : List Char) : List Char := s.dropWhile (· == ' ')

/-- Where the cross references of a file begin. -/
def start? (file : List Char) : Option Int := do
  let ending ← findLast? "%%EOF" file (file.length - endReach)
  if ending ≤ startReach then none
  let start ← findLast? "startxref" file (ending - startReach)
  let s ← afterLineEnd? (← after? "startxref" (file.drop start))
  let (offset, s) ← readInt? (skipSpaces s)
  let _ ← after? "%%EOF" (← afterLineEnd? (skipSpaces s))
  pure offset

/-- The cross references of a file, of all revisions.  The last of all numbers is never used, so that
they can be counted. -/
def ofFile? (file : List Char) : Option Index := do
  let x ← atOffset? file (← start? file)
  let x ← addRevisions? file (offset? x.trailer "XRefStm") (file.length + 2) []
    (offset? x.trailer "Prev") x
  if x.places.any fun place => place.1 == Word.max32 then none
  pure x

/-- The place of an object. -/
def place? (x : Index) (number : Nat) : Option Place := x.places.lookup number

end Index

end LecturePlan.Pdf

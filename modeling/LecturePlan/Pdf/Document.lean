import LecturePlan.Pdf.CrossReference
import LecturePlan.Text.Encoding.Utf8
/-!
# PDF documents

A document is what its cross references lead to: objects at offsets of the file, and objects packed
in streams.  A packed object counts only where there is none of its id at an offset.  Objects that
cannot be read are left out, and so are all objects of an encrypted file; without a header or cross
references there is no document.  Main definition: `Document.ofFile?`.
-/

namespace LecturePlan.Pdf

open LecturePlan.Text

/-- The objects of a file, by id, and the dictionary that leads to the first of them.  Of several
objects of an id the first one counts. -/
structure Document where
  objects : List (ObjectId × Object)
  trailer : Dictionary

/-! ## 1. Packed objects -/

/-- The words of the head of a stream of objects. -/
def headWords (head : List Char) : List (List Char) :=
  (head.splitOnP isBlank).filter fun word => !word.isEmpty

/-- A number of the head of a stream of objects, which may have a plus sign. -/
def headNumber? (word : List Char) : Option Nat :=
  Decimal.readUpTo? Word.max32 (match word with
    | '+' :: digits => digits
    | digits => digits)

/-- The numbers of the head of a stream of objects: of each object its number and its offset. -/
def headPairs : List (List Char) → List (Option Nat × Option Nat)
  | a :: b :: words => (headNumber? a, headNumber? b) :: headPairs words
  | _ => []

/-- The objects of a stream of objects, the last of an id first; nothing if it has no proper head. -/
def packedObjects? (d : Dictionary) (content : List Char) :
    Option (List (ObjectId × Object)) := do
  let data := (data? d content).getD content
  if data.isEmpty then return []
  let first ← (d.get? "First").bind Object.integer?
  let _ ← (d.get? "N").bind Object.integer?
  if first < 0 ∨ data.length < first then none
  let head ← Utf8.decode? (bytesOf (data.take first.toNat))
  let objects := (headPairs (headWords head)).filterMap fun
    | (some number, some offset) =>
      (readValue? (data.drop (first.toNat + offset))).map fun v => (⟨number, 0⟩, v.1)
    | _ => none
  pure objects.reverse

/-! ## 2. Documents -/

namespace Document

/-- What stands at an offset of a file: an object, and those that are packed in it. -/
def readAt? (x : Index) (file : List Char) (offset : Nat) :
    Option ((ObjectId × Object) × List (ObjectId × Object)) := do
  let integerAt (id : ObjectId) : Option Int := do
    match ← x.place? id.number with
    | .offset n generation =>
      let (found, value) ← readObject? (fun _ => none) (file.drop n)
      if found = id ∧ generation = id.generation then value.integer? else none
    | .packed => none
  if file.length < offset then none
  let (id, object) ← readObject? integerAt (file.drop offset)
  match object with
  | .stream entries content =>
    if Dictionary.hasType entries "ObjStm" then
      let packed ← packedObjects? entries content
      pure ((id, object), packed)
    else pure ((id, object), [])
  | _ => pure ((id, object), [])

/-- The objects of a file whose cross references are known.  Those of an encrypted file are hidden. -/
def ofIndex (x : Index) (file : List Char) : Document :=
  if (x.trailer.get? "Encrypt").isSome then ⟨[], x.trailer⟩
  else
    let numbers := (x.places.map Prod.fst).eraseDups.mergeSort
    let read := numbers.filterMap fun number =>
      match x.place? number with
      | some (.offset n _) => readAt? x file n
      | _ => none
    ⟨(read.map Prod.fst).reverse ++ read.flatMap Prod.snd, x.trailer⟩

/-- What begins a file. -/
def headerMark : String := "%PDF-"

/-- The part of a file that begins with its header, or all of it if it has none. -/
def fromHeader (file : List Char) : List Char :=
  match afterFirst? headerMark.toList file with
  | some rest => file.drop (file.length - rest.length - headerMark.toList.length)
  | none => file

/-- Whether a file begins with a header: a mark and a version, which take a line. -/
def hasHeader (file : List Char) : Bool :=
  match after? headerMark file with
  | some rest =>
    let line := splitBefore isLineBreak rest
    !line.2.isEmpty && (Utf8.decode? (bytesOf line.1)).isSome
  | none => false

/-- Reads the bytes of a file. -/
def ofFile? (bytes : List UInt8) : Option Document :=
  let file := fromHeader (charsOf bytes)
  if hasHeader file then (Index.ofFile? file).map fun x => ofIndex x file else none

/-- How often references to references are followed. -/
def maxReferences : Nat := 128

/-- The value of an object that is no reference, through references. -/
def follow (d : Document) : Nat → Object → Option Object
  | steps, .reference id =>
    match steps with
    | 0 => none
    | steps + 1 => (d.objects.lookup id).bind (d.follow steps)
  | _, object => some object

/-- The value behind an object that may be a reference. -/
def resolve? (d : Document) (object : Object) : Option Object := d.follow maxReferences object

/-- The dictionary of an id, perhaps behind references. -/
def dictionary? (d : Document) (id : ObjectId) : Option Dictionary :=
  ((d.objects.lookup id).bind d.resolve?).bind Object.dictionary?

/-- The number of objects. -/
def size (d : Document) : Nat := (d.objects.map Prod.fst).eraseDups.length

end Document

end LecturePlan.Pdf

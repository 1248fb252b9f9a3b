import LecturePlan.Pdf.Ascii85
import LecturePlan.Pdf.Deflate
import LecturePlan.Pdf.Lzw
import LecturePlan.Pdf.Object
/-!
# Data of streams

The data of a stream may be compressed or written as text, and its rows may be written as differences
from bytes to their left or in the row above.  The dictionary of the stream says how.  Main
definition: `data?`.
-/

namespace LecturePlan.Pdf

/-! ## 1. Rows of differences -/

namespace Rows

/-- Of three neighbours, the one nearest to left plus above minus corner. -/
def nearest (left above corner : Nat) : Nat :=
  let guess : Int := left + above - corner
  let distance (n : Nat) : Nat := (guess - n).natAbs
  if distance left ≤ distance above ∧ distance left ≤ distance corner then left
  else if distance above ≤ distance corner then above
  else corner

/-- What the difference of a byte is taken from, by the kind of its row. -/
def base? (kind left above corner : Nat) : Option Nat :=
  match kind with
  | 0 => some 0
  | 1 => some left
  | 2 => some above
  | 3 => some (left + above / 2)
  | 4 => some (nearest left above corner)
  | _ => none

/-- Restores a row.  `before` holds the restored bytes of the row, the last one first, with the
bytes above them; `width` is the number of bytes between neighbours. -/
def restoreRow (kind width : Nat) (before : List (Nat × Nat)) : List Nat → List Nat → Option (List Nat)
  | [], _ => some (before.reverse.map Prod.fst)
  | d :: row, above => do
    let (left, corner) := (before[width - 1]?).getD (0, 0)
    let up := above.head?.getD 0
    let base ← base? kind left up corner
    restoreRow kind width (((d + base) % 256, up) :: before) row above.tail

/-- Restores rows of a length, each behind the byte that tells its kind; `fuel` bounds their
number. -/
def restoreUpTo (width length : Nat) : Nat → List Nat → List Nat → Option (List Nat)
  | 0, _, _ => none
  | _ + 1, _, [] => some []
  | fuel + 1, above, kind :: rest =>
    if rest.length < length then none
    else do
      let row ← restoreRow kind width [] (rest.take length) above
      let more ← restoreUpTo width length fuel row (rest.drop length)
      pure (row ++ more)

/-- Restores rows of a length. -/
def restore (width length : Nat) (bytes : List Nat) : Option (List Nat) :=
  restoreUpTo width length (bytes.length + 1) [] bytes

end Rows

/-! ## 2. Data -/

/-- A number of a dictionary, or what it is if the dictionary does not say. -/
def Dictionary.integerOr (d : Dictionary) (key : String) (missing : Int) : Int :=
  ((d.get? key).bind Object.integer?).getD missing

/-- Restores the rows of data that was decompressed, if the parameters say that it has such rows. -/
def restoreRows? (parameters : Dictionary) (data : List UInt8) : Option (List UInt8) :=
  let kind := parameters.integerOr "Predictor" 1
  if kind < 10 ∨ 15 < kind then some data
  else
    let columns := (max 1 (parameters.integerOr "Columns" 1)).toNat
    let colors := (max 1 (parameters.integerOr "Colors" 1)).toNat
    let bits := (max 8 (parameters.integerOr "BitsPerComponent" 8)).toNat
    let width := colors * bits / 8
    (Rows.restore width (width * columns) (data.map UInt8.toNat)).map fun rows =>
      rows.map Nat.toUInt8

/-- The names of the ways in which data is encoded, the first one to be undone first. -/
def filters? (d : Dictionary) : Option (List (List Char)) :=
  match d.get? "Filter" with
  | some (.name filter) => some [filter]
  | some (.array filters) => filters.mapM Object.name?
  | _ => none

/-- Undoes one way of encoding, if it is known. -/
def unfilter? (parameters : Dictionary) (data : List UInt8) (filter : List Char) :
    Option (List UInt8) :=
  if filter = "FlateDecode".toList then restoreRows? parameters (Deflate.inflate data)
  else if filter = "LZWDecode".toList then
    restoreRows? parameters (Lzw.expand (parameters.integerOr "EarlyChange" 1 != 0) data)
  else if filter = "ASCII85Decode".toList then Ascii85.decode? (charsOf data)
  else none

/-- The data of a stream that says how it is encoded, as it was before.  Images are not decoded, and
where no encoding is listed there is no data. -/
def data? (d : Dictionary) (content : List Char) : Option (List Char) := do
  let filters ← filters? d
  if (d.get? "Subtype").bind Object.name? = some "Image".toList then none
  if filters.isEmpty then return []
  let parameters := ((d.get? "DecodeParms").bind Object.dictionary?).getD []
  let data ← filters.foldlM (unfilter? parameters) (bytesOf content)
  pure (charsOf data)

end LecturePlan.Pdf

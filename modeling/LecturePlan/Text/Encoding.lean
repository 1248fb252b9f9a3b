import LecturePlan.Text.CharClass
import LecturePlan.Text.Encoding.CodePage
import LecturePlan.Text.Encoding.EucJp
import LecturePlan.Text.Encoding.Gb18030
import LecturePlan.Text.Encoding.Iso2022Jp
import LecturePlan.Text.Encoding.Utf16
import LecturePlan.Text.Encoding.Utf8
/-!
# Encodings

How bytes become text.  The encodings, their labels and what they do with bytes that are no
characters are those of the encoding standard of the web.  A byte order mark at the beginning says
which encoding of Unicode is used, whatever else was asked for, and is no part of the text.

`decodeText` reads bytes of which nothing is known: as UTF-8 if they are; else as the XML
declaration says, if there is one that names an encoding; else as the Western European code page.
-/

namespace LecturePlan.Text

open Utf16 (ByteOrder)

/-- A way to write text in bytes. -/
inductive Encoding where
  | utf8
  | utf16 (order : ByteOrder)
  | codePage (page : CodePage)
  | gb18030
  | big5
  | eucJp
  | iso2022Jp
  | shiftJis
  | eucKr
  /-- The upper bytes are characters of private use. -/
  | userDefined
  /-- Encodings that are too dangerous to be read. -/
  | replacement
deriving DecidableEq, Repr

namespace Encoding

/-! ## 1. Labels -/

/-- The encodings that are no code pages, with their labels. -/
def labelled : List (Encoding × List String) := [
  (.utf8, ["unicode-1-1-utf-8", "unicode11utf8", "unicode20utf8", "utf-8", "utf8",
    "x-unicode20utf8"]),
  (.utf16 .littleEndian, ["csunicode", "iso-10646-ucs-2", "ucs-2", "unicode", "unicodefeff",
    "utf-16", "utf-16le"]),
  (.utf16 .bigEndian, ["unicodefffe", "utf-16be"]),
  (.gb18030, ["chinese", "csgb2312", "csiso58gb231280", "gb2312", "gb_2312", "gb_2312-80", "gbk",
    "iso-ir-58", "x-gbk", "gb18030"]),
  (.big5, ["big5", "big5-hkscs", "cn-big5", "csbig5", "x-x-big5"]),
  (.eucJp, ["cseucpkdfmtjapanese", "euc-jp", "x-euc-jp"]),
  (.iso2022Jp, ["csiso2022jp", "iso-2022-jp"]),
  (.shiftJis, ["csshiftjis", "ms932", "ms_kanji", "shift-jis", "shift_jis", "sjis", "windows-31j",
    "x-sjis"]),
  (.eucKr, ["cseuckr", "csksc56011987", "euc-kr", "iso-ir-149", "korean", "ks_c_5601-1987",
    "ks_c_5601-1989", "ksc5601", "ksc_5601", "windows-949"]),
  (.userDefined, ["x-user-defined"]),
  (.replacement, ["csiso2022kr", "hz-gb-2312", "iso-2022-cn", "iso-2022-cn-ext", "iso-2022-kr",
    "replacement"])]

/-- White space of ASCII, which may stand around a label. -/
def isLabelBlank (c : Char) : Bool :=
  c == ' ' || c == '\t' || c == '\n' || c == '\x0c' || c == '\r'

/-- A label without white space around it, in small letters. -/
def trimLabel (label : List Char) : List Char :=
  ((label.dropWhile isLabelBlank).reverse.dropWhile isLabelBlank).reverse.map asciiLower

/-- The encoding with a label. -/
def ofLabel? (label : List Char) : Option Encoding :=
  let label := String.ofList (trimLabel label)
  match labelled.find? fun e => e.2.contains label with
  | some e => some e.1
  | none => (CodePage.ofLabel? label).map .codePage

/-! ## 2. Reading -/

/-- A byte of the encoding whose upper bytes are characters of private use. -/
def userDefinedChar (b : UInt8) : Char :=
  if b.toNat < 0x80 then Char.ofNat b.toNat else Char.ofNat (0xF700 + b.toNat)

/-- Reads bytes; those that are no characters give nothing. -/
def decode (e : Encoding) (bytes : List UInt8) : List (Option Char) :=
  match e with
  | .utf8 => Utf8.decode bytes
  | .utf16 order => Utf16.decode order bytes
  | .codePage page => page.decode bytes
  | .gb18030 => Gb18030.decode bytes
  | .big5 => TwoByte.big5.decode bytes
  | .eucJp => EucJp.decode bytes
  | .iso2022Jp => Iso2022Jp.decode bytes
  | .shiftJis => TwoByte.shiftJis.decode bytes
  | .eucKr => TwoByte.eucKr.decode bytes
  | .userDefined => bytes.map fun b => some (userDefinedChar b)
  | .replacement => if bytes.isEmpty then [] else [none]

/-- The encoding that a byte order mark tells, and the bytes behind the mark. -/
def ofMark? : List UInt8 → Option (Encoding × List UInt8)
  | 0xEF :: 0xBB :: 0xBF :: bytes => some (.utf8, bytes)
  | 0xFF :: 0xFE :: bytes => some (.utf16 .littleEndian, bytes)
  | 0xFE :: 0xFF :: bytes => some (.utf16 .bigEndian, bytes)
  | _ => none

/-- Reads bytes in an encoding, unless a byte order mark tells another one. -/
def read (e : Encoding) (bytes : List UInt8) : List (Option Char) :=
  match ofMark? bytes with
  | some (marked, rest) => marked.decode rest
  | none => e.decode bytes

end Encoding

/-! ## 3. Bytes of an unknown encoding -/

/-- What stands for bytes that are no character. -/
def replacementChar : Char := '\uFFFD'

/-- The text that was read, with a replacement for what is no character. -/
def legible (symbols : List (Option Char)) : String :=
  String.ofList (symbols.map fun c => c.getD replacementChar)

/-- How many bytes are searched for an XML declaration. -/
def declarationReach : Nat := 100

/-- The label of the encoding that an XML declaration near the beginning names: what stands in
quotes directly behind the first `encoding=`, in any case, after the first `<?xml`. -/
def declaredLabel? (bytes : List UInt8) : Option (List Char) :=
  let start := (bytes.take declarationReach).map fun b => Char.ofNat b.toNat
  match (afterFirst? "<?xml".toList start).bind
      fun s => afterFirst? "encoding=".toList (s.map asciiLower) with
  | some (quote :: s) =>
    if (quote == '"' || quote == '\'') && s.contains quote then some (s.takeWhile (· != quote))
    else none
  | _ => none

/-- The encoding of bytes that are not UTF-8. -/
def legacyEncoding (bytes : List UInt8) : Encoding :=
  ((declaredLabel? bytes).bind Encoding.ofLabel?).getD (.codePage .windows1252)

/-- The text of bytes of which nothing is known. -/
def decodeText (bytes : List UInt8) : String :=
  let symbols := Encoding.utf8.read bytes
  if symbols.all Option.isSome then legible symbols
  else legible ((legacyEncoding bytes).read bytes)

end LecturePlan.Text

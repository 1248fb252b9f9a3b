import LecturePlan.Text.CodePoint
import LecturePlan.Text.Decimal
import LecturePlan.Word
/-!
# The words of PDF

A PDF file is read as characters, one for each byte and of the same number.  This module holds what
its objects are spelled with: white space and comments, numbers, names and strings.  A reader gives
what it read and the rest, or nothing where its form does not begin.
-/

namespace LecturePlan.Pdf

open LecturePlan.Text

/-- The characters of bytes. -/
def charsOf (bytes : List UInt8) : List Char := bytes.map fun b => Char.ofNat b.toNat

/-- The bytes of characters. -/
def bytesOf (chars : List Char) : List UInt8 := chars.map fun c => c.toNat.toUInt8

/-! ## 1. Characters -/

/-- White space. -/
def isWhite (c : Char) : Bool :=
  c == ' ' || c == '\t' || c == '\n' || c == '\r' || c == '\x0c' || c == '\x00'

/-- Characters that end a word. -/
def isDelimiter (c : Char) : Bool :=
  c == '(' || c == ')' || c == '<' || c == '>' || c == '[' || c == ']' || c == '\x7b' ||
    c == '\x7d' || c == '/' || c == '%'

/-- Characters that names are spelled with as they are. -/
def isRegular (c : Char) : Bool := !isWhite c && !isDelimiter c && c != '#'

/-! ## 2. Marks and space -/

/-- What follows a mark. -/
def after? (mark : String) (s : List Char) : Option (List Char) :=
  if mark.toList.isPrefixOf s then some (s.drop mark.toList.length) else none

/-- What follows an end of line. -/
def afterLineEnd? : List Char → Option (List Char)
  | '\r' :: '\n' :: s => some s
  | '\n' :: s => some s
  | '\r' :: s => some s
  | _ => none

/-- What follows the line that a comment fills, if the line has an end. -/
def afterComment? (s : List Char) : Option (List Char) :=
  match s.dropWhile fun c => !isLineBreak c with
  | [] => none
  | _ :: rest => some rest

theorem length_afterComment?_lt {s rest : List Char} (h : afterComment? s = some rest) :
    rest.length < s.length := by
  have hle := (List.dropWhile_suffix (fun c => !isLineBreak c) (l := s)).length_le
  unfold afterComment? at h
  split at h
  · simp at h
  · next heq =>
    cases h
    rw [heq] at hle
    exact hle

/-- What follows white space and comments. -/
def skipSpace : List Char → List Char
  | [] => []
  | c :: s =>
    if isWhite c then skipSpace s
    else if c = '%' then
      match _h : afterComment? s with
      | none => c :: s
      | some rest => skipSpace rest
    else c :: s
termination_by s => s.length
decreasing_by
  · simp
  · exact Nat.lt_succ_of_lt (length_afterComment?_lt _h)

/-! ## 3. Numbers -/

/-- Reads digits whose value is at most `bound`. -/
def readNat? (bound : Nat) (s : List Char) : Option (Nat × List Char) :=
  let cut := splitBefore (fun c => !isDigit c) s
  (Decimal.readUpTo? bound cut.1).map fun n => (n, cut.2)

/-- A sign, if there is one: whether it is a minus, and what follows. -/
def cutSign : List Char → Bool × List Char
  | '+' :: s => (false, s)
  | '-' :: s => (true, s)
  | s => (false, s)

/-- The least and greatest integers are those of 64 bits. -/
def readInt? (s : List Char) : Option (Int × List Char) := do
  let (negative, s) := cutSign s
  let (n, rest) ← readNat? (if negative then Word.maxInt64 + 1 else Word.maxInt64) s
  pure (if negative then -n else n, rest)

/-- What follows a number with a point. -/
def afterFraction? (s : List Char) : Option (List Char) :=
  let whole := splitBefore (fun c => !isDigit c) (cutSign s).2
  match whole.2 with
  | '.' :: s =>
    let part := splitBefore (fun c => !isDigit c) s
    if whole.1.isEmpty && part.1.isEmpty then none else some part.2
  | _ => none

/-! ## 4. Names and strings -/

/-- Reads the characters of a name behind its slash.  A number sign and two digits are a character. -/
def cutName : List Char → List Char × List Char
  | '#' :: a :: b :: s =>
    match hexValue? a, hexValue? b with
    | some a, some b =>
      let cut := cutName s
      (Char.ofNat (a * 16 + b) :: cut.1, cut.2)
    | _, _ => ([], '#' :: a :: b :: s)
  | c :: s =>
    if isRegular c then
      let cut := cutName s
      (c :: cut.1, cut.2)
    else ([], c :: s)
  | [] => ([], [])

/-- How deep brackets may be nested in a string. -/
def maxBrackets : Nat := 100

/-- What follows a string in brackets whose first bracket was read; `depth` more are open. -/
def afterString? (depth : Nat) : List Char → Option (List Char)
  | [] => none
  | '\\' :: _ :: s => afterString? depth s
  | ['\\'] => none
  | '(' :: s => if depth < maxBrackets then afterString? (depth + 1) s else none
  | ')' :: s =>
    match depth with
    | 0 => some s
    | depth + 1 => afterString? depth s
  | _ :: s => afterString? depth s

/-- What follows a string of hexadecimal digits whose bracket was read. -/
def afterHexString? : List Char → Option (List Char)
  | [] => none
  | '>' :: s => some s
  | c :: s => if isWhite c || (hexValue? c).isSome then afterHexString? s else none

end LecturePlan.Pdf

import LecturePlan.Text.CodePoint
import LecturePlan.Text.Decimal
/-!
# Printing JSON

Documents are printed over several lines, two spaces to a level, fields in the order in which they
are given.  Empty arrays and objects take no line of their own.
-/

namespace LecturePlan.Json

open LecturePlan.Text

/-- What is printed: fields in order, whole numbers, texts. -/
inductive Document where
  | number (n : Int)
  | text (s : String)
  | array (items : List Document)
  | object (fields : List (String × Document))
deriving Inhabited

/-- The written form of a character in a string. -/
def escapeChar (c : Char) : List Char :=
  if c = '"' then ['\\', '"']
  else if c = '\\' then ['\\', '\\']
  else if c = '\n' then ['\\', 'n']
  else if c = '\r' then ['\\', 'r']
  else if c = '\t' then ['\\', 't']
  else if c = '\x08' then ['\\', 'b']
  else if c = '\x0c' then ['\\', 'f']
  else if c.toNat < 0x20 then ['\\', 'u', '0', '0', hexDigit (c.toNat / 16), hexDigit (c.toNat % 16)]
  else [c]

/-- A string in quotes. -/
def quote (s : String) : List Char := '"' :: s.toList.flatMap escapeChar ++ ['"']

/-- A new line, indented to a level. -/
def newLine (level : Nat) : List Char := '\n' :: List.replicate (2 * level) ' '

mutual

/-- The characters of a document at a level of nesting. -/
def Document.write (level : Nat) : Document → List Char
  | .number n => (Decimal.ofInt n).toList
  | .text s => quote s
  | .array [] => ['[', ']']
  | .array (d :: ds) =>
    '[' :: newLine (level + 1) ++ d.write (level + 1) ++ writeItems (level + 1) ds ++
      newLine level ++ [']']
  | .object [] => ['\x7b', '\x7d']
  | .object ((k, d) :: fs) =>
    '\x7b' :: newLine (level + 1) ++ quote k ++ [':', ' '] ++ d.write (level + 1) ++
      writeFields (level + 1) fs ++ newLine level ++ ['\x7d']

/-- The characters of further items of an array. -/
def writeItems (level : Nat) : List Document → List Char
  | [] => []
  | d :: ds => ',' :: newLine level ++ d.write level ++ writeItems level ds

/-- The characters of further fields of an object. -/
def writeFields (level : Nat) : List (String × Document) → List Char
  | [] => []
  | (k, d) :: fs =>
    ',' :: newLine level ++ quote k ++ [':', ' '] ++ d.write level ++ writeFields level fs

end

/-- The text of a document. -/
def Document.toString (d : Document) : String := String.ofList (d.write 0)

end LecturePlan.Json

import LecturePlan.Word
import LecturePlan.Text.CodePoint
import LecturePlan.Text.Decimal
/-!
# Character references

A reference stands for one character, by one of five names or by a code point in decimal or
hexadecimal digits.  There are two readers.  `resolve?` is for references in running text: it knows
one answer for every fault, allows a plus sign before the digits, either case of the hexadecimal
mark, and code point zero.  `unescape` is for attribute values: it reads a whole value, names the
fault it meets first together with its place in bytes, and allows none of these liberties.
`escapeText` and `escapeValue` write the references that the readers undo.
-/

namespace LecturePlan.Markup

open LecturePlan.Text

/-! ## 1. Numbers in references -/

/-- Why a run of characters is no 32-bit number. -/
inductive NumberFault where
  | empty
  | badDigit
  | tooLarge
deriving DecidableEq, Repr

/-- The wording of a number fault. -/
def NumberFault.message : NumberFault → String
  | .empty => "cannot parse integer from empty string"
  | .badDigit => "invalid digit found in string"
  | .tooLarge => "number too large to fit in target type"

/-- The value of a digit in a base of at most sixteen. -/
def digitIn? (base : Nat) (c : Char) : Option Nat := (hexValue? c).filter (· < base)

/-- Reads further digits after a number; what goes wrong first, from the left, is the fault. -/
def word32From (base n : Nat) : List Char → Except NumberFault Nat
  | [] => .ok n
  | c :: s =>
    match digitIn? base c with
    | none => .error .badDigit
    | some d =>
      if n * base + d ≤ Word.max32 then word32From base (n * base + d) s
      else .error .tooLarge

/-- Reads one or more digits in a base as a number that fits 32 bits. -/
def word32 (base : Nat) (s : List Char) : Except NumberFault Nat :=
  if s.isEmpty then .error .empty else word32From base 0 s

/-- The five references by name. -/
def named? (body : List Char) : Option Char :=
  if body = ['a', 'p', 'o', 's'] then some '\''
  else if body = ['q', 'u', 'o', 't'] then some '"'
  else if body = ['l', 't'] then some '<'
  else if body = ['g', 't'] then some '>'
  else if body = ['a', 'm', 'p'] then some '&'
  else none

/-! ## 2. References in text -/

/-- Drops one plus sign. -/
def dropPlus : List Char → List Char
  | '+' :: s => s
  | s => s

/-- The code point that a numeric reference in text names. -/
def codeInText? : List Char → Option Nat
  | '#' :: 'x' :: s => (word32 16 (dropPlus s)).toOption
  | '#' :: 'X' :: s => (word32 16 (dropPlus s)).toOption
  | '#' :: s => (word32 10 (dropPlus s)).toOption
  | _ => none

/-- The character for which a reference in text stands, given what is between `&` and `;`. -/
def resolve? (body : List Char) : Option Char :=
  match named? body with
  | some c => some c
  | none => codeInText? body >>= charOfCode?

/-! ## 3. References in attribute values -/

/-- Why an attribute value cannot be unescaped.  Places are byte offsets in the raw value. -/
inductive ValueFault where
  | unknownName (start stop : Nat) (name : String)
  | unterminated (start stop : Nat)
  | signedNumber
  | number (fault : NumberFault)
  | noCodePoint (n : Nat)
  | zeroCodePoint
deriving DecidableEq, Repr

/-- The wording of a value fault. -/
def ValueFault.message : ValueFault → String
  | .unknownName start stop name =>
    "at " ++ Decimal.ofNat start ++ ".." ++ Decimal.ofNat stop ++ ": unrecognized entity `" ++
      name ++ "`"
  | .unterminated start stop =>
    "Error while escaping character at range " ++ Decimal.ofNat start ++ ".." ++
      Decimal.ofNat stop ++ ": Cannot find ';' after '&'"
  | .signedNumber => "invalid character reference: unexpected number sign"
  | .number fault => "invalid character reference: " ++ fault.message
  | .noCodePoint n =>
    "invalid character reference: `" ++ Decimal.ofNat n ++ "` is not a valid codepoint"
  | .zeroCodePoint => "invalid character reference: 0x0 character is not permitted in XML"

/-- The number of bytes that a text takes in UTF-8. -/
def byteLength : List Char → Nat
  | [] => 0
  | c :: s => c.utf8Size + byteLength s

/-- Reads the digits of a numeric reference in a value. -/
def codeInValue (base : Nat) : List Char → Except ValueFault Nat
  | '+' :: _ => .error .signedNumber
  | '-' :: _ => .error .signedNumber
  | s => (word32 base s).mapError .number

/-- The character of a code point named in a value. -/
def charInValue (n : Nat) : Except ValueFault Char :=
  if n = 0 then .error .zeroCodePoint
  else match charOfCode? n with
    | some c => .ok c
    | none => .error (.noCodePoint n)

/-- The character for which a reference in a value stands; `start` is the place of its body. -/
def resolveInValue (start : Nat) (body : List Char) : Except ValueFault Char :=
  match body with
  | '#' :: 'x' :: s => codeInValue 16 s >>= charInValue
  | '#' :: s => codeInValue 10 s >>= charInValue
  | _ =>
    match named? body with
    | some c => .ok c
    | none => .error (.unknownName start (start + byteLength body) (String.ofList body))

/-- Unescapes what is left of a value whose first `pos` bytes are read; `size` is its full length.
A reference ends at the first `;`, and another `&` before that is a fault. -/
def unescapeFrom (size pos : Nat) (s : List Char) : Except ValueFault (List Char) :=
  match s with
  | [] => .ok []
  | c :: s =>
    if c = '&' then
      let cut := splitBefore (fun c => c == '&' || c == ';') s
      match h : cut.2 with
      | ';' :: rest => do
        let c ← resolveInValue (pos + 1) cut.1
        let cs ← unescapeFrom size (pos + byteLength cut.1 + 2) rest
        pure (c :: cs)
      | _ => .error (.unterminated pos size)
    else do
      let cs ← unescapeFrom size (pos + c.utf8Size) s
      pure (c :: cs)
termination_by s.length
decreasing_by
  · have hle := length_splitBefore_snd_le (fun c => c == '&' || c == ';') s
    have hlen := congrArg List.length h
    simp only [List.length_cons] at hlen ⊢
    simp only [cut] at hlen
    omega
  · simp

/-- Unescapes an attribute value. -/
def unescape (raw : List Char) : Except ValueFault (List Char) :=
  unescapeFrom (byteLength raw) 0 raw

/-! ## 4. Writing references -/

/-- The written form of a character in text. -/
def escapeTextChar (c : Char) : List Char :=
  if c = '&' then ['&', 'a', 'm', 'p', ';']
  else if c = '<' then ['&', 'l', 't', ';']
  else if c = '>' then ['&', 'g', 't', ';']
  else [c]

/-- The written form of a character in an attribute value: quotes are escaped too. -/
def escapeValueChar (c : Char) : List Char :=
  if c = '"' then ['&', 'q', 'u', 'o', 't', ';']
  else if c = '\'' then ['&', 'a', 'p', 'o', 's', ';']
  else escapeTextChar c

/-- The written form of a text leaf. -/
def escapeText (s : List Char) : List Char := s.flatMap escapeTextChar

/-- The written form of an attribute value. -/
def escapeValue (s : List Char) : List Char := s.flatMap escapeValueChar

@[simp] theorem escapeText_append (s t : List Char) :
    escapeText (s ++ t) = escapeText s ++ escapeText t := by simp [escapeText]

end LecturePlan.Markup

import LecturePlan.Json.Value
import LecturePlan.Text.CodePoint
/-!
# Reading JSON

A text is cut into tokens, and the tokens are followed with a stack of open arrays and objects.
There is no limit on nesting.  Only the grammar is checked: repeated keys and strings without a text
are kept for the reader of the value to judge.
-/

namespace LecturePlan.Json

open LecturePlan.Text

/-- A token: a mark, or a value without parts. -/
inductive Token where
  | openArray
  | closeArray
  | openObject
  | closeObject
  | comma
  | colon
  | atom (v : Value)

/-! ## 1. Strings -/

/-- What a string is spelled with: characters, and 16-bit units written in hexadecimal. -/
inductive Piece where
  | char (c : Char)
  | unit (n : Nat)

/-- The character of an escape of one letter. -/
def shortEscape? (c : Char) : Option Char :=
  if c = '"' then some '"'
  else if c = '\\' then some '\\'
  else if c = '/' then some '/'
  else if c = 'b' then some '\x08'
  else if c = 'f' then some '\x0c'
  else if c = 'n' then some '\n'
  else if c = 'r' then some '\r'
  else if c = 't' then some '\t'
  else none

/-- The unit of four hexadecimal digits. -/
def hexUnit? (a b c d : Char) : Option Nat := do
  let a ← hexValue? a
  let b ← hexValue? b
  let c ← hexValue? c
  let d ← hexValue? d
  pure (((a * 16 + b) * 16 + c) * 16 + d)

/-- Cuts a string whose opening quote was read behind its closing quote. -/
def cutString : List Char → Option (List Piece × List Char)
  | [] => none
  | '"' :: s => some ([], s)
  | '\\' :: 'u' :: a :: b :: c :: d :: s => do
    let n ← hexUnit? a b c d
    let (ps, rest) ← cutString s
    pure (.unit n :: ps, rest)
  | '\\' :: e :: s => do
    let c ← shortEscape? e
    let (ps, rest) ← cutString s
    pure (.char c :: ps, rest)
  | c :: s => do
    if c.toNat < 0x20 then none
    let (ps, rest) ← cutString s
    pure (.char c :: ps, rest)

/-- The text of a string, if none of its units is half of a pair. -/
def pieceText? : List Piece → Option (List Char)
  | [] => some []
  | .char c :: ps => (pieceText? ps).map (c :: ·)
  | .unit n :: .unit m :: ps =>
    if 0xD800 ≤ n ∧ n < 0xDC00 ∧ 0xDC00 ≤ m ∧ m < 0xE000 then
      (pieceText? ps).map (Char.ofNat ((n - 0xD800) * 0x400 + (m - 0xDC00) + 0x10000) :: ·)
    else do
      let c ← charOfCode? n
      (pieceText? (.unit m :: ps)).map (c :: ·)
  | .unit n :: ps => do
    let c ← charOfCode? n
    (pieceText? ps).map (c :: ·)

/-! ## 2. Numbers -/

/-- The white space between tokens. -/
def isSpace (c : Char) : Bool := c == ' ' || c == '\n' || c == '\t' || c == '\r'

/-- Characters that numbers are spelled with. -/
def isNumberChar (c : Char) : Bool :=
  isDigit c || c == '-' || c == '+' || c == '.' || c == 'e' || c == 'E'

/-- Whether a text is one or more digits. -/
def someDigits (s : List Char) : Bool := !s.isEmpty && s.all isDigit

/-- Whether a text is the exponent of a number, sign included. -/
def isExponent : List Char → Bool
  | '+' :: s => someDigits s
  | '-' :: s => someDigits s
  | s => someDigits s

/-- Whether a text is what may follow the whole part of a number. -/
def isTail (s : List Char) : Bool :=
  match s with
  | [] => true
  | '.' :: s =>
    let cut := splitBefore (fun c => c == 'e' || c == 'E') s
    someDigits cut.1 && match cut.2 with
      | [] => true
      | _ :: e => isExponent e
  | 'e' :: e => isExponent e
  | 'E' :: e => isExponent e
  | _ => false

/-- Whether a text is a number without sign: no zeros in front of its whole part. -/
def isUnsigned (s : List Char) : Bool :=
  let cut := splitBefore (fun c => !isDigit c) s
  (cut.1 = ['0'] || (someDigits cut.1 && cut.1.head? != some '0')) && isTail cut.2

/-- Whether a text is a number. -/
def isNumber : List Char → Bool
  | '-' :: s => isUnsigned s
  | s => isUnsigned s

/-! ## 3. Tokens -/

/-- Reads a token that does not start with white space, and what follows it. -/
def cutToken (s : List Char) : Option (Token × List Char) :=
  match s with
  | '[' :: s => some (.openArray, s)
  | ']' :: s => some (.closeArray, s)
  | '\x7b' :: s => some (.openObject, s)
  | '\x7d' :: s => some (.closeObject, s)
  | ',' :: s => some (.comma, s)
  | ':' :: s => some (.colon, s)
  | '"' :: s => (cutString s).map fun p => (.atom (.string (pieceText? p.1)), p.2)
  | 't' :: 'r' :: 'u' :: 'e' :: s => some (.atom (.bool true), s)
  | 'f' :: 'a' :: 'l' :: 's' :: 'e' :: s => some (.atom (.bool false), s)
  | 'n' :: 'u' :: 'l' :: 'l' :: s => some (.atom .null, s)
  | s =>
    let cut := splitBefore (fun c => !isNumberChar c) s
    if isNumber cut.1 then some (.atom (.number cut.1), cut.2) else none

/-- The tokens of a text; `fuel` bounds their number. -/
def tokensUpTo : Nat → List Char → Option (List Token)
  | 0, _ => none
  | fuel + 1, s =>
    match s.dropWhile isSpace with
    | [] => some []
    | c :: s => do
      let (t, rest) ← cutToken (c :: s)
      let ts ← tokensUpTo fuel rest
      pure (t :: ts)

/-- The tokens of a text.  Every token takes at least one character. -/
def tokens (s : List Char) : Option (List Token) := tokensUpTo (s.length + 1) s

/-! ## 4. Values -/

/-- An array or object that is still open, with what has been read of it. -/
inductive Frame where
  | array (items : List Value)
  | object (fields : List (Option (List Char) × Value)) (key : Option (List Char))

/-- What the next token may be. -/
inductive Expect where
  | value
  | itemOrClose
  | key
  | keyOrClose
  | colon
  | commaOrClose
  | nothing

/-- A value in the making: what comes next, the open arrays and objects, the innermost first, and
the value, once it is complete. -/
structure Parsing where
  expect : Expect
  frames : List Frame
  result : Value

namespace Parsing

/-- Puts a complete value where it belongs. -/
def complete (v : Value) : List Frame → Parsing
  | [] => ⟨.nothing, [], v⟩
  | .array items :: fs => ⟨.commaOrClose, .array (items ++ [v]) :: fs, .null⟩
  | .object fields key :: fs => ⟨.commaOrClose, .object (fields ++ [(key, v)]) key :: fs, .null⟩

/-- Starts a value. -/
def begin' (fs : List Frame) : Token → Option Parsing
  | .openArray => some ⟨.itemOrClose, .array [] :: fs, .null⟩
  | .openObject => some ⟨.keyOrClose, .object [] none :: fs, .null⟩
  | .atom v => some (complete v fs)
  | _ => none

/-- Takes the key of a field. -/
def takeKey (fs : List Frame) : Token → Option Parsing
  | .atom (.string key) =>
    match fs with
    | .object fields _ :: fs => some ⟨.colon, .object fields key :: fs, .null⟩
    | _ => none
  | _ => none

/-- Closes the innermost array or object. -/
def close (fs : List Frame) : Token → Option Parsing
  | .closeArray =>
    match fs with
    | .array items :: fs => some (complete (.array items) fs)
    | _ => none
  | .closeObject =>
    match fs with
    | .object fields _ :: fs => some (complete (.object fields) fs)
    | _ => none
  | _ => none

/-- Follows one token. -/
def step (p : Parsing) (t : Token) : Option Parsing :=
  match p.expect, t with
  | .value, t => begin' p.frames t
  | .itemOrClose, .closeArray => close p.frames .closeArray
  | .itemOrClose, t => begin' p.frames t
  | .key, t => takeKey p.frames t
  | .keyOrClose, .closeObject => close p.frames .closeObject
  | .keyOrClose, t => takeKey p.frames t
  | .colon, .colon => some { p with expect := .value }
  | .colon, _ => none
  | .commaOrClose, .comma =>
    match p.frames with
    | .array _ :: _ => some { p with expect := .value }
    | .object _ _ :: _ => some { p with expect := .key }
    | [] => none
  | .commaOrClose, t => close p.frames t
  | .nothing, _ => none

/-- Follows tokens in order. -/
def steps (p : Parsing) : List Token → Option Parsing
  | [] => some p
  | t :: ts => p.step t >>= fun p => p.steps ts

end Parsing

/-- Reads a JSON text. -/
def Value.read? (s : List Char) : Option Value := do
  let ts ← tokens s
  let p ← (Parsing.mk .value [] .null).steps ts
  match p.expect with
  | .nothing => some p.result
  | _ => none

end LecturePlan.Json

import LecturePlan.Pdf.Lexeme
/-!
# PDF objects

The values that a PDF file is made of, and how they are read.  What a string, a fraction, a truth
value or the null is does not matter to anyone who looks for pages; such a value is a scalar.
-/

namespace LecturePlan.Pdf

open LecturePlan.Text

/-- The number of an object, and how often the number has been used before. -/
structure ObjectId where
  number : Nat
  generation : Nat
deriving DecidableEq, Repr

/-- A value of a PDF file. -/
inductive Object where
  | scalar
  | integer (n : Int)
  | name (s : List Char)
  | reference (id : ObjectId)
  | array (items : List Object)
  | dictionary (entries : List (List Char × Object))
  /-- A dictionary with data behind it. -/
  | stream (entries : List (List Char × Object)) (content : List Char)
deriving Repr

/-- Values by name; of several values of a name the last one counts. -/
abbrev Dictionary := List (List Char × Object)

/-- The value of a name. -/
def Dictionary.get? (d : Dictionary) (key : String) : Option Object :=
  (d.reverse.find? fun e => e.1 == key.toList).map Prod.snd

namespace Object

/-! ## 1. Views -/

def integer? : Object → Option Int
  | .integer n => some n
  | _ => none

def name? : Object → Option (List Char)
  | .name s => some s
  | _ => none

def reference? : Object → Option ObjectId
  | .reference id => some id
  | _ => none

def array? : Object → Option (List Object)
  | .array items => some items
  | _ => none

def dictionary? : Object → Option Dictionary
  | .dictionary entries => some entries
  | _ => none

end Object

/-- Whether a dictionary says that it is of a type. -/
def Dictionary.hasType (d : Dictionary) (type : String) : Bool :=
  (d.get? "Type").bind Object.name? == some type.toList

/-! ## 2. Reading values -/

/-- Reads the number and the generation of an object. -/
def readId? (s : List Char) : Option (ObjectId × List Char) := do
  let (number, s) ← readNat? Word.max32 s
  let (generation, s) ← readNat? Word.max16 (skipSpace s)
  pure (⟨number, generation⟩, skipSpace s)

/-- Reads a value that has no parts and does not begin with a bracket. -/
def readSimple? (s : List Char) : Option (Object × List Char) :=
  match (readId? s).bind fun p => (after? "R" p.2).map fun r => (Object.reference p.1, r) with
  | some found => some found
  | none =>
    match afterFraction? s with
    | some rest => some (.scalar, rest)
    | none =>
      match readInt? s with
      | some (n, rest) => some (.integer n, rest)
      | none =>
        ((after? "null" s).or ((after? "true" s).or (after? "false" s))).map fun r => (.scalar, r)

mutual

/-- Reads a value; `fuel` bounds its size. -/
def readValueUpTo : Nat → List Char → Option (Object × List Char)
  | 0, _ => none
  | fuel + 1, s =>
    match s with
    | '/' :: s => some (.name (cutName s).1, (cutName s).2)
    | '(' :: s => (afterString? 0 s).map fun r => (.scalar, r)
    | '[' :: s =>
      match readItemsUpTo fuel (skipSpace s) with
      | (items, ']' :: rest) => some (.array items, rest)
      | _ => none
    | '<' :: '<' :: s =>
      match readEntriesUpTo fuel (skipSpace s) with
      | (entries, '>' :: '>' :: rest) => some (.dictionary entries, rest)
      | _ => none
    | '<' :: s => (afterHexString? s).map fun r => (.scalar, r)
    | s => readSimple? s

/-- Reads values as long as there are any. -/
def readItemsUpTo : Nat → List Char → List Object × List Char
  | 0, s => ([], s)
  | fuel + 1, s =>
    match readValueUpTo fuel s with
    | some (item, rest) =>
      let more := readItemsUpTo fuel (skipSpace rest)
      (item :: more.1, more.2)
    | none => ([], s)

/-- Reads names with values as long as there are any. -/
def readEntriesUpTo : Nat → List Char → Dictionary × List Char
  | 0, s => ([], s)
  | fuel + 1, s =>
    match s with
    | '/' :: t =>
      match readValueUpTo fuel (skipSpace (cutName t).2) with
      | some (value, rest) =>
        let more := readEntriesUpTo fuel (skipSpace rest)
        (((cutName t).1, value) :: more.1, more.2)
      | none => ([], s)
    | s => ([], s)

end

/-- Reads a value.  Every value and every bracket takes at least one character. -/
def readValue? (s : List Char) : Option (Object × List Char) :=
  readValueUpTo (2 * s.length + 2) s

/-- Reads a dictionary. -/
def readDictionary? (s : List Char) : Option (Dictionary × List Char) := do
  let (value, rest) ← readValue? s
  let entries ← value.dictionary?
  pure (entries, rest)

/-! ## 3. Reading numbered objects -/

/-- What follows the word that begins the data of a stream, with the end of its line. -/
def afterStreamMark? (s : List Char) : Option (List Char) := do
  let s ← after? "stream" (skipSpace s)
  afterLineEnd? (s.dropWhile fun c => c == ' ' || c == '\t')

/-- How long the data of a stream is, if its dictionary tells; `lengthOf` is what an object tells. -/
def dataLength? (lengthOf : ObjectId → Option Int) (d : Dictionary) : Option Int :=
  (d.get? "Length").bind fun
    | .reference id => lengthOf id
    | value => value.integer?

/-- Data of a length, if the word that ends it follows. -/
def cutData? (length : Nat) (s : List Char) : Option (List Char) := do
  if s.length < length then none
  let rest := s.drop length
  let _ ← after? "endstream" ((afterLineEnd? rest).getD rest)
  pure (s.take length)

/-- Reads a numbered object: its id, and a stream or any value.  A stream of unknown length is empty; one
without its end is read as its dictionary; of a length below zero there is none. -/
def readObject? (lengthOf : ObjectId → Option Int) (s : List Char) :
    Option (ObjectId × Object) := do
  let (id, s) ← readId? (skipSpace s)
  let (value, rest) ← readValue? (skipSpace (← after? "obj" s))
  match value, afterStreamMark? rest with
  | .dictionary entries, some rest =>
    match dataLength? lengthOf entries with
    | none => pure (id, .stream entries [])
    | some length =>
      if length < 0 then none
      else match cutData? length.toNat rest with
        | some content => pure (id, .stream entries content)
        | none => pure (id, value)
  | _, _ => pure (id, value)

end LecturePlan.Pdf

import LecturePlan.Json.Reader
import LecturePlan.Text.Decimal
import LecturePlan.Voice.Registry
import LecturePlan.Word
/-!
# Configuration

A configuration comes from the surroundings and not from the script; the settings of a script win
over it.  It is read from a JSON object, or from an array of the values in the order of the fields.
Unknown keys are ignored, what is missing keeps its default, and a known key stands once.
-/

namespace LecturePlan

open LecturePlan.Text

/-- What holds where a script does not say otherwise. -/
structure Config where
  defaultVoice : String
  /-- Whether the last frame of a video stays visible after it. -/
  defaultKeepFrame : Bool
  /-- Milliseconds of silence after a slide change; 0 for none. -/
  defaultBreakAfterSlide : Nat
  /-- Milliseconds of silence at a line break; 0 for none. -/
  defaultBreakAfterParagraph : Nat
  /-- The known voices and the backends that render them. -/
  voices : Table Backend
deriving DecidableEq

namespace Config

/-- The voice of a script that names none. -/
def standardVoice : String := "amazon-en-us-joanna"

/-- The configuration without any choice made. -/
def standard : Config where
  defaultVoice := standardVoice
  defaultKeepFrame := false
  defaultBreakAfterSlide := 0
  defaultBreakAfterParagraph := 0
  voices := Table.ofList [(standardVoice, .amazonPolly)]

instance : Inhabited Config := ⟨standard⟩

/-- The voices of a configuration as a registry. -/
def voiceTable (c : Config) : VoiceTable := VoiceTable.ofList c.voices.entries

/-! ## 1. Fields -/

/-- The fields, in the order in which an array gives them. -/
inductive Field where
  | defaultVoice
  | defaultKeepFrame
  | defaultBreakAfterSlide
  | defaultBreakAfterParagraph
  | voices
deriving DecidableEq

/-- All fields. -/
def Field.all : List Field :=
  [.defaultVoice, .defaultKeepFrame, .defaultBreakAfterSlide, .defaultBreakAfterParagraph, .voices]

/-- The key of a field. -/
def Field.key : Field → String
  | .defaultVoice => "defaultVoice"
  | .defaultKeepFrame => "defaultKeepFrame"
  | .defaultBreakAfterSlide => "defaultBreakAfterSlide"
  | .defaultBreakAfterParagraph => "defaultBreakAfterParagraph"
  | .voices => "voices"

/-- The field of a key. -/
def Field.ofKey? (key : String) : Option Field := Field.all.find? (·.key == key)

/-! ## 2. Values -/

/-- A string that has a text. -/
def text? : Json.Value → Option String
  | .string (some s) => some (String.ofList s)
  | _ => none

/-- A truth value. -/
def bool? : Json.Value → Option Bool
  | .bool b => some b
  | _ => none

/-- A number of 32 bits, written with digits alone. -/
def word? : Json.Value → Option Nat
  | .number s => Decimal.readUpTo? Word.max32 s
  | _ => none

/-- A backend: its name, or an object with the name as its only key and no value. -/
def backend? : Json.Value → Option Backend
  | .object [(some key, .null)] => Backend.ofName? (String.ofList key)
  | v => text? v >>= Backend.ofName?

/-- Voices with their backends; of two with one name the later counts. -/
def voices? : Json.Value → Option (Table Backend)
  | .object fields =>
    fields.foldlM (fun t f => do
      let name ← f.1
      let backend ← backend? f.2
      pure (t.insert (String.ofList name) backend)) ∅
  | _ => none

/-- Sets one field to a value of its kind. -/
def set? (c : Config) (f : Field) (v : Json.Value) : Option Config :=
  match f with
  | .defaultVoice => (text? v).map fun s => { c with defaultVoice := s }
  | .defaultKeepFrame => (bool? v).map fun b => { c with defaultKeepFrame := b }
  | .defaultBreakAfterSlide => (word? v).map fun n => { c with defaultBreakAfterSlide := n }
  | .defaultBreakAfterParagraph => (word? v).map fun n => { c with defaultBreakAfterParagraph := n }
  | .voices => (voices? v).map fun t => { c with voices := t }

/-! ## 3. Reading -/

/-- Takes the fields of an object in order; `seen` are those already set. -/
def setFields? (c : Config) (seen : List Field) :
    List (Option (List Char) × Json.Value) → Option Config
  | [] => some c
  | (key, v) :: fs => do
    let key ← key
    match Field.ofKey? (String.ofList key) with
    | none => setFields? c seen fs
    | some f =>
      if seen.contains f then none
      else
        let c ← c.set? f v
        setFields? c (f :: seen) fs

/-- Takes the values of an array in the order of the fields; there may be fewer, but not more. -/
def setItems? (c : Config) : List Field → List Json.Value → Option Config
  | _, [] => some c
  | [], _ :: _ => none
  | f :: fs, v :: vs => c.set? f v >>= fun c => setItems? c fs vs

/-- The configuration that a JSON value gives. -/
def ofValue? : Json.Value → Option Config
  | .object fields => setFields? standard [] fields
  | .array items => setItems? standard Field.all items
  | _ => none

/-- Reads a configuration from JSON text. -/
def ofJson? (s : String) : Option Config := Json.Value.read? s.toList >>= ofValue?

end Config

end LecturePlan

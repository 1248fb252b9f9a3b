import LecturePlan.Word
import LecturePlan.Table
import LecturePlan.Text.Decimal
/-!
# Settings

The attributes of the settings tag.  Values stay texts; the readers below say what they mean.
-/

namespace LecturePlan

open LecturePlan.Text

/-- The settings of a script. -/
structure Settings where
  values : Table String
deriving DecidableEq

namespace Settings

/-- No settings. -/
def empty : Settings := ⟨∅⟩

/-- The value of a setting. -/
def get? (s : Settings) (key : String) : Option String := s.values.get? key

/-- Sets a value. -/
def insert (s : Settings) (key value : String) : Settings := ⟨s.values.insert key value⟩

/-- Reads a whole number with an optional minus sign that fits a signed 64-bit word. -/
def readInt? : List Char → Option Int
  | '-' :: s => (Decimal.readUpTo? (Word.maxInt64 + 1) s).map fun n => -(n : Int)
  | s => (Decimal.readUpTo? Word.maxInt64 s).map fun n => (n : Int)

/-- A setting that is a whole number. -/
def int? (s : Settings) (key : String) : Option Int := s.get? key >>= fun v => readInt? v.toList

/-- A setting that is `true` or `false`. -/
def bool? (s : Settings) (key : String) : Option Bool :=
  match s.get? key with
  | some "true" => some true
  | some "false" => some false
  | _ => none

/-- The voice of the script: `voice`, or `defaultVoice` where that is not set.  An empty value names
no voice. -/
def voice? (s : Settings) : Option String :=
  (s.get? "voice" <|> s.get? "defaultVoice").filter (· != "")

end Settings

end LecturePlan

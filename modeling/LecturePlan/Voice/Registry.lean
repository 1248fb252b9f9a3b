import LecturePlan.Table
import LecturePlan.Text.Lowercase
import LecturePlan.Voice.Backend
/-!
# Voice registries

A registry answers which backend renders a voice.  Asking may change a registry: `Cached` remembers
what it was told, `Monitored` counts its lookups.  So a lookup gives the answer together with the
registry that the next question goes to.
-/

namespace LecturePlan

/-- Why a registry gives no answer. -/
inductive RegistryError where
  | unavailable (reason : String)
  | internal (reason : String)
deriving DecidableEq, Repr

/-- The wording of a registry error. -/
def RegistryError.message : RegistryError → String
  | .unavailable reason => "voice registry unavailable: " ++ reason
  | .internal reason => "voice registry internal error: " ++ reason

/-- What a registry says about a name: the backend of the voice, or that there is no such voice. -/
abbrev RegistryAnswer := Except RegistryError (Option Backend)

/-- What can be asked about voices. -/
class VoiceRegistry (ρ : Type) where
  /-- Asks for the backend of a voice. -/
  lookup : ρ → String → RegistryAnswer × ρ

namespace VoiceRegistry

/-- Asks whether a voice exists. -/
def hasVoice {ρ : Type} [VoiceRegistry ρ] (r : ρ) (name : String) :
    Except RegistryError Bool × ρ :=
  let asked := lookup r name
  (asked.1.map Option.isSome, asked.2)

/-- A function from names to answers is a registry that never changes. -/
instance : VoiceRegistry (String → RegistryAnswer) where
  lookup f name := (f name, f)

end VoiceRegistry

/-! ## 1. Fixed voices -/

/-- A fixed table of voices.  The case of names is ignored. -/
structure VoiceTable where
  voices : Table Backend
deriving DecidableEq

namespace VoiceTable

/-- The table without voices. -/
def empty : VoiceTable := ⟨∅⟩

/-- Enters a voice. -/
def insert (t : VoiceTable) (name : String) (backend : Backend) : VoiceTable :=
  ⟨t.voices.insert (Text.lowercase name) backend⟩

/-- The backend of a voice. -/
def backend? (t : VoiceTable) (name : String) : Option Backend :=
  t.voices.get? (Text.lowercase name)

/-- The table of a list of voices, entered in order. -/
def ofList (voices : List (String × Backend)) : VoiceTable :=
  voices.foldl (fun t v => t.insert v.1 v.2) empty

instance : VoiceRegistry VoiceTable where
  lookup t name := (.ok (t.backend? name), t)

end VoiceTable

/-! ## 2. Remembered answers -/

/-- A registry in front of another that remembers every answer, also that there is no such voice.
Errors are passed on and not remembered. -/
structure Cached (ρ : Type) where
  inner : ρ
  answers : Table (Option Backend)

namespace Cached

/-- Nothing is remembered yet. -/
def new {ρ : Type} (inner : ρ) : Cached ρ := ⟨inner, ∅⟩

/-- Answers from memory if the name was answered before in any case, and else asks. -/
def lookup {ρ : Type} [VoiceRegistry ρ] (c : Cached ρ) (name : String) :
    RegistryAnswer × Cached ρ :=
  let key := Text.lowercase name
  match c.answers.get? key with
  | some answer => (.ok answer, c)
  | none =>
    match VoiceRegistry.lookup c.inner name with
    | (.ok answer, inner) => (.ok answer, ⟨inner, c.answers.insert key answer⟩)
    | (.error e, inner) => (.error e, { c with inner })

instance {ρ : Type} [VoiceRegistry ρ] : VoiceRegistry (Cached ρ) where
  lookup := lookup

end Cached

/-! ## 3. Watched lookups -/

/-- A registry in front of another that counts lookups and fails for the names of an outage, spelled
exactly so. -/
structure Monitored (ρ : Type) where
  inner : ρ
  outage : Table RegistryError
  lookups : Nat

namespace Monitored

/-- A registry without outage, and not asked yet. -/
def new {ρ : Type} (inner : ρ) : Monitored ρ := ⟨inner, ∅, 0⟩

/-- Counts the lookup and passes it on, unless the name fails. -/
def lookup {ρ : Type} [VoiceRegistry ρ] (m : Monitored ρ) (name : String) :
    RegistryAnswer × Monitored ρ :=
  match m.outage.get? name with
  | some e => (.error e, { m with lookups := m.lookups + 1 })
  | none =>
    let asked := VoiceRegistry.lookup m.inner name
    (asked.1, { m with inner := asked.2, lookups := m.lookups + 1 })

instance {ρ : Type} [VoiceRegistry ρ] : VoiceRegistry (Monitored ρ) where
  lookup := lookup

end Monitored

end LecturePlan

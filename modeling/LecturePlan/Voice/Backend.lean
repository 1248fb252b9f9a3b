/-!
# Speech backends

A voice is rendered by a speech service, and a service limits the length of one request.  Google
Cloud counts all characters together; Amazon Polly counts the characters of tags and the others
apart.
-/

namespace LecturePlan

/-- The service that renders a voice. -/
inductive Backend where
  | googleCloud
  | amazonPolly
  /-- A service without known limits. -/
  | other
deriving DecidableEq, Repr, Inhabited

/-- The greatest lengths that a service accepts for one section. -/
inductive CharacterBudget where
  /-- One limit on all characters. -/
  | combined (limit : Nat)
  /-- A limit on the characters of tags and one on the others. -/
  | split (markup text : Nat)
deriving DecidableEq, Repr

namespace Backend

/-- The name of a backend in configurations. -/
def name : Backend → String
  | .googleCloud => "google-cloud"
  | .amazonPolly => "amazon-polly"
  | .other => "other"

/-- The backend of a name. -/
def ofName? (s : String) : Option Backend :=
  if s = "google-cloud" then some .googleCloud
  else if s = "amazon-polly" then some .amazonPolly
  else if s = "other" then some .other
  else none

/-- The budget of one section with a backend. -/
def budget? : Backend → Option CharacterBudget
  | .googleCloud => some (.combined 5000)
  | .amazonPolly => some (.split 3000 3000)
  | .other => none

theorem ofName?_name (b : Backend) : ofName? b.name = some b := by
  cases b <;> simp [name, ofName?]

end Backend

end LecturePlan

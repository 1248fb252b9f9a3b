import LecturePlan.Markup.TagCount
import LecturePlan.Plan.Section
/-!
# Lengths of speech sections

Every speech section is held against the budget of the backend that renders its voice.  A voice of
which the registry does not know the backend is reported, and its sections are not measured.
-/

namespace LecturePlan

open LecturePlan.Markup LecturePlan.Text

/-- Which characters are too many. -/
inductive Overage where
  | combined
  | markup
  | text
deriving DecidableEq, Repr

/-- A section that is longer than a limit. -/
structure BudgetViolation where
  sectionId : Nat
  kind : Overage
  length : Nat
  limit : Nat
deriving DecidableEq, Repr

namespace BudgetViolation

/-- By how much the limit is exceeded. -/
def amount (v : BudgetViolation) : Nat := v.length - v.limit

/-- The wording of a violation. -/
def message (v : BudgetViolation) : String :=
  let what := match v.kind with
    | .combined => "characters"
    | .markup => "markup characters"
    | .text => "text characters"
  "section " ++ Decimal.ofNat v.sectionId ++ " has " ++ Decimal.ofNat v.length ++ " " ++ what ++
    ", " ++ Decimal.ofNat v.amount ++ " over the limit of " ++ Decimal.ofNat v.limit

end BudgetViolation

/-- Holds a length against a limit. -/
def checkLength (sectionId : Nat) (kind : Overage) (length limit : Nat) : List BudgetViolation :=
  if limit < length then [⟨sectionId, kind, length, limit⟩] else []

/-- Holds the content of a section against a budget. -/
def checkContent (sectionId : Nat) (content : String) : CharacterBudget → List BudgetViolation
  | .combined limit => checkLength sectionId .combined content.toList.length limit
  | .split markup text =>
    let tags := tagLength content.toList
    checkLength sectionId .markup tags markup ++
      checkLength sectionId .text (content.toList.length - tags) text

/-- What comes of measuring sections: the registry as it was left, violations and warnings. -/
structure Measured (ρ : Type) where
  registry : ρ
  violations : List BudgetViolation
  warnings : List Warning

/-- What comes of measuring a section whose voice has been looked up. -/
def checkAnswer (sectionId : Nat) (voice content : String) :
    RegistryAnswer → List BudgetViolation × List Warning
  | .ok (some backend) =>
    match backend.budget? with
    | some budget => (checkContent sectionId content budget, [])
    | none => ([], [])
  | .ok none => ([], [⟨"voice", .lengthUnknownVoice sectionId voice⟩])
  | .error e => ([], [⟨"voice", .lengthNotChecked sectionId e⟩])

/-- Measures the speech sections in order. -/
def measure {ρ : Type} [VoiceRegistry ρ] (registry : ρ) : List Section → Measured ρ
  | [] => ⟨registry, [], []⟩
  | s :: ss =>
    match s.kind with
    | .speech _ voice content =>
      let asked := VoiceRegistry.lookup registry voice
      let found := checkAnswer s.id voice content asked.1
      let rest := measure asked.2 ss
      ⟨rest.registry, found.1 ++ rest.violations, found.2 ++ rest.warnings⟩
    | _ => measure registry ss

end LecturePlan

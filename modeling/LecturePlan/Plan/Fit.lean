/-!
# Fit

How a picture is scaled into the frame of the video.
-/

namespace LecturePlan

/-- How a picture is scaled. -/
inductive Fit where
  | contain
  | cover
  | fill
deriving DecidableEq, Repr, Inhabited

namespace Fit

/-- The name of a fit in scripts and plans. -/
def name : Fit → String
  | .contain => "contain"
  | .cover => "cover"
  | .fill => "fill"

/-- The fit of a name. -/
def ofName? (s : String) : Option Fit :=
  if s = "contain" then some .contain
  else if s = "cover" then some .cover
  else if s = "fill" then some .fill
  else none

theorem ofName?_name (f : Fit) : ofName? f.name = some f := by
  cases f <;> simp [name, ofName?]

theorem name_injective {f g : Fit} (h : f.name = g.name) : f = g := by
  have hf := ofName?_name f
  rw [h, ofName?_name] at hf
  exact (Option.some.inj hf).symm

end Fit

end LecturePlan

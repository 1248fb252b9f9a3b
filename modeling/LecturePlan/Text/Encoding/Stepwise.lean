/-!
# Reading byte by byte

Encodings with characters of several bytes are read by steps: a byte may complete characters, show
that the bytes before it are none, and leave bytes pending.  What is pending at the end is no
character.
-/

namespace LecturePlan.Text

/-- What is read, with nothing for bytes that are no character, and what is left pending. -/
abbrev Progressed (σ : Type) := List (Option Char) × σ

/-- A way to read bytes; `σ` is what may be pending. -/
structure Stepwise (σ : Type) where
  start : σ
  step : σ → UInt8 → Progressed σ
  finish : σ → List (Option Char)

namespace Stepwise

variable {σ : Type}

/-- Reads bytes behind pending ones. -/
def readFrom (r : Stepwise σ) : σ → List UInt8 → List (Option Char)
  | pending, [] => r.finish pending
  | pending, b :: bytes => (r.step pending b).1 ++ r.readFrom (r.step pending b).2 bytes

/-- Reads bytes. -/
def read (r : Stepwise σ) (bytes : List UInt8) : List (Option Char) := r.readFrom r.start bytes

/-- A byte that completes a character and leaves nothing new pending is read for itself. -/
theorem readFrom_cons_of_step {r : Stepwise σ} {pending : σ} {b : UInt8} {c : Char}
    (h : r.step pending b = ([some c], r.start)) (bytes : List UInt8) :
    r.readFrom pending (b :: bytes) = some c :: r.read bytes := by
  simp [readFrom, read, h]

end Stepwise

/-- Nothing is wrong at the end if nothing is pending. -/
def unfinished {α : Type} (pending : Option α) : List (Option Char) :=
  if pending.isSome then [none] else []

end LecturePlan.Text

import LecturePlan.Text.Decimal
import LecturePlan.Word
/-!
# Page requests

A slide tag asks for a page by a word, by its number, or by a signed distance from the page that its
deck shows.  Whatever is asked, the answer is a page of the deck.  Numbers are words: one that is too
large counts as the largest word, and a sum that is too large saturates, which makes no difference
once the page is brought into the range of the deck.
-/

namespace LecturePlan

open LecturePlan.Text

/-- What a slide tag asks for. -/
inductive PageRequest where
  | next
  | previous
  | current
  | first
  | last
  | absolute (page : Nat)
  | relative (distance : Int)
deriving DecidableEq, Repr

namespace PageRequest

/-- Reads digits as the unsigned word that is nearest to their value. -/
def magnitude? (s : List Char) : Option Nat := (Decimal.read? s).map (min Word.max64)

/-- Reads a number with or without a sign.  A distance is a signed word. -/
def ofNumber? : List Char → Option PageRequest
  | '+' :: s => (magnitude? s).map fun n => .relative (min Word.maxInt64 n : Nat)
  | '-' :: s => (magnitude? s).map fun n => .relative (-(min Word.maxInt64 n : Nat))
  | s => (magnitude? s).map .absolute

/-- Reads a request. -/
def ofString? (s : String) : Option PageRequest :=
  match s with
  | "next" => some .next
  | "previous" => some .previous
  | "current" => some .current
  | "first" => some .first
  | "last" => some .last
  | s => ofNumber? s.toList

/-- The page that a request means, before it is brought into range, as a signed word. -/
def target (r : PageRequest) (current pageCount : Nat) : Int :=
  match r with
  | .next => Word.saturate (current + 1)
  | .previous => Word.saturate (current - 1)
  | .current => current
  | .first => 1
  | .last => pageCount
  | .absolute n => Word.saturate n
  | .relative d => Word.saturate (current + d)

/-- The page of a deck that a request leads to.  A deck counts as having at least one page. -/
def resolve (r : PageRequest) (current pageCount : Nat) : Nat :=
  let last : Nat := max 1 pageCount
  (max 1 (min (r.target current last) last)).toNat

/-- Every request leads to a page of the deck. -/
theorem resolve_mem (r : PageRequest) (current : Nat) {pageCount : Nat} (h : 1 ≤ pageCount) :
    1 ≤ r.resolve current pageCount ∧ r.resolve current pageCount ≤ pageCount := by
  simp only [resolve]
  omega

end PageRequest

end LecturePlan

import LecturePlan.Pdf.Document
/-!
# Counting pages

The pages of a document are the leaves of a tree below its catalog.  What the nodes of the tree claim
about their number does not count.  The walk looks at no more nodes than there are objects, so that
a tree that contains itself comes to an end.  Main definition: `countPages`.
-/

namespace LecturePlan.Pdf

open LecturePlan.Text

namespace Document

/-- How many unfinished nodes of the tree are kept while their children are walked. -/
def maxDepth : Nat := 256

/-- The children of a node of the tree. -/
def kids (d : Document) (id : ObjectId) : List Object :=
  (((d.dictionary? id).bind fun node => node.get? "Kids").bind d.resolve?).bind Object.array?
    |>.getD []

/-- The next node: the first of its siblings, or of the innermost unfinished ones. -/
def nextKid : List Object → List (List Object) → Option (Object × List Object × List (List Object))
  | kid :: kids, open' => some (kid, kids, open')
  | [], (kid :: kids) :: open' => some (kid, kids, open')
  | [], [] :: open' => nextKid [] open'
  | [], [] => none

/-- Counts the pages among siblings, below them, and among the unfinished siblings of the nodes
around them, looking at no more than `limit` nodes. -/
def countFrom (d : Document) : Nat → List Object → List (List Object) → Nat
  | 0, _, _ => 0
  | limit + 1, kids, open' =>
    match nextKid kids open' with
    | none => 0
    | some (kid, kids, open') =>
      match kid.reference?.bind fun id => (d.dictionary? id).map fun node => (id, node) with
      | none => d.countFrom limit kids open'
      | some (id, node) =>
        if node.hasType "Page" then d.countFrom limit kids open' + 1
        else if node.hasType "Pages" ∧ open'.length < maxDepth then
          d.countFrom limit (d.kids id) (if kids.isEmpty then open' else kids :: open')
        else d.countFrom limit kids open'

/-- The number of pages of a document. -/
def pageCount (d : Document) : Nat :=
  match (d.trailer.get? "Root").bind Object.reference? with
  | none => 0
  | some root =>
    match ((d.dictionary? root).bind fun catalog => catalog.get? "Pages").bind
        Object.reference? with
    | none => 0
    | some pages => d.countFrom d.size (d.kids pages) []

end Document

/-- Why pages cannot be counted. -/
inductive Fault where
  | notReadable
  | noPages
deriving DecidableEq, Repr

/-- The wording of a fault. -/
def Fault.message : Fault → String
  | .notReadable => "not a readable PDF file"
  | .noPages => "the document has no pages"

/-- Counts the pages of a file; there is at least one. -/
def countPages (bytes : List UInt8) : Except Fault Nat :=
  match Document.ofFile? bytes with
  | none => .error .notReadable
  | some d => if d.pageCount = 0 then .error .noPages else .ok d.pageCount

theorem pos_of_countPages {bytes : List UInt8} {n : Nat} (h : countPages bytes = .ok n) : 0 < n := by
  unfold countPages at h
  split at h
  · simp at h
  · split at h
    · simp at h
    · cases h
      omega

end LecturePlan.Pdf

import LecturePlan.Proofs.Rewrite.Passes
import LecturePlan.Proofs.Rewrite.WordEdge
/-!
# The scope of a lookup

A lookup puts a lexicon in force for all text inside it, however deep, until a pronunciation or a
declaration shields the text.  This module says so of each text leaf by itself, from the tags around it:
`inForce` are the lexicons that they name, and `isShielded` says whether one of them shields it.

The walk carries both with it and never looks back, so the two must agree.  To say where a leaf stands,
its surroundings are taken apart: a `Spot` is a list of siblings with a hole in it, there or below.
`rewriteAll_fill` says that the walk turns the hole of a leaf into the hole of what the leaf becomes,
and that the rest of the result does not depend on the leaf.
-/

namespace LecturePlan.Rewrite

open LecturePlan.Markup LecturePlan.Text

/-! ## 1. Spots -/

/-- A spot among siblings or below them, with all that stands around it. -/
inductive Spot where
  | here (before after : List Node)
  | inside (before : List Node) (tag : Tag) (spot : Spot) (after : List Node)

namespace Spot

/-- The siblings with some nodes at the spot. -/
def fill (ns : List Node) : Spot → List Node
  | .here before after => before ++ (ns ++ after)
  | .inside before tag spot after => before ++ .element tag (spot.fill ns) :: after

/-- The tags around the spot, the innermost first. -/
def tags : Spot → List Tag
  | .here _ _ => []
  | .inside _ tag spot _ => spot.tags ++ [tag]

/-- The spot with more siblings on both sides. -/
def within (front back : List Node) : Spot → Spot
  | .here before after => .here (front ++ before) (after ++ back)
  | .inside before tag spot after => .inside (front ++ before) tag spot (after ++ back)

end Spot

/-! ## 2. What is in force at a leaf -/

/-- The lexicon that a tag puts in force: that of a lookup which names a declared one. -/
def lexiconOf? (lexicons : List Lexicon) (t : Tag) : Option Lexicon :=
  if t.name = "lookup" then
    (t.nonEmptyAttr? "ref").bind fun id => lexicons.find? fun x => x.id == id
  else none

/-- What is wrong with a lookup that puts no lexicon in force. -/
def lookupProblem? (lexicons : List Lexicon) (t : Tag) : Option Warning :=
  match t.nonEmptyAttr? "ref" with
  | none => some ⟨"lookup", .lookupWithoutLexicon⟩
  | some id =>
    if (lexicons.find? fun x => x.id == id).isSome then none
    else some ⟨"lookup", .lookupUnknown id⟩

mutual

/-- The tags of the lookups of a node, in the order of the text. -/
def lookupsNode : Node → List Tag
  | .text _ => []
  | .element tag children =>
    if isDeclaration tag.name then []
    else (if tag.name = "lookup" then [tag] else []) ++ lookupsAll children

/-- The tags of the lookups of siblings, in the order of the text.  Those inside declarations are none. -/
def lookupsAll : List Node → List Tag
  | [] => []
  | n :: ns => lookupsNode n ++ lookupsAll ns

end

theorem lookup_eq (r : Rules) {t : Tag} (h : t.name = "lookup") :
    r.lookup t = (lexiconOf? r.lexicons t, (lookupProblem? r.lexicons t).toList) := by
  rw [Rules.lookup, lexiconOf?, lookupProblem?, if_pos h]
  cases t.nonEmptyAttr? "ref" with
  | none => rfl
  | some id =>
    rw [Option.bind_some]
    dsimp only
    cases r.lexicons.find? fun x => x.id == id <;> rfl

mutual

theorem rewriteNode_snd (r : Rules) : ∀ (n : Node) (active : List Lexicon) (spoken paused : Bool),
    (rewriteNode r active spoken paused n).2 =
      (lookupsNode n).filterMap (lookupProblem? r.lexicons)
  | .text s, active, spoken, paused => by
    rw [rewriteNode, lookupsNode, List.filterMap_nil]
  | .element tag children, active, spoken, paused => by
    rw [rewriteNode, lookupsNode]
    split
    · rfl
    · rw [List.filterMap_append]
      by_cases hl : tag.name = "lookup"
      · rw [if_pos hl, if_pos hl, lookup_eq r hl]
        dsimp only
        rw [rewriteAll_snd r children, List.filterMap_cons, List.filterMap_nil]
        cases lookupProblem? r.lexicons tag <;> rfl
      · rw [if_neg hl, if_neg hl]
        exact rewriteAll_snd r children _ _

/-- **Each lookup that names no declared lexicon is reported once**, in the order of the text. -/
theorem rewriteAll_snd (r : Rules) : ∀ (ns : List Node) (active : List Lexicon) (spoken : Bool),
    (rewriteAll r active spoken ns).2 = (lookupsAll ns).filterMap (lookupProblem? r.lexicons)
  | [], active, spoken => by
    rw [rewriteAll, lookupsAll, List.filterMap_nil]
  | n :: ns, active, spoken => by
    rw [rewriteAll, lookupsAll, List.filterMap_append]
    dsimp only
    rw [rewriteNode_snd r n, rewriteAll_snd r ns]

end

/-! ## 6. The lecture -/

end LecturePlan.Rewrite

import LecturePlan.Rewrite.Pause
/-!
# Rewriting a lecture

Before a lecture is compiled its tree is rewritten.  One walk takes lookups away and speaks the words
inside them through their lexicons, turns tokens into words, and puts a pause behind every slide
that has none behind it already; another puts pauses at line breaks.  Declarations are left as they
are.  No problem fails the script: a lookup of an unknown lexicon is taken away as well.
-/

namespace LecturePlan.Rewrite

open LecturePlan.Markup

/-- What the walk needs to know: the declared lexicons and the pause behind a slide. -/
structure Rules where
  lexicons : List Lexicon
  afterSlide : Nat

/-- The lexicon that a lookup refers to, or what is wrong with it. -/
def Rules.lookup (r : Rules) (t : Tag) : Option Lexicon × List Warning :=
  match t.nonEmptyAttr? "ref" with
  | none => (none, [⟨"lookup", .lookupWithoutLexicon⟩])
  | some id =>
    match r.lexicons.find? fun x => x.id == id with
    | some x => (some x, [])
    | none => (none, [⟨"lookup", .lookupUnknown id⟩])

/-- The tag of an element after the walk: a token is a word. -/
def renameToken (t : Tag) : Tag := if t.name = "token" then { t with name := "w" } else t

/-- Whether a list of siblings starts with a pause. -/
def startsWithBreak : List Node → Bool
  | n :: _ => n.isNamed "break"
  | [] => false

mutual

/-- Rewrites a node.  `active` holds the lexicons of the lookups around it, the innermost first;
`spoken` says whether it stands in a pronunciation, and `paused` whether a pause stands behind it. -/
def rewriteNode (r : Rules) (active : List Lexicon) (spoken paused : Bool) :
    Node → List Node × List Warning
  | .text s =>
    (if spoken || active.isEmpty then [.text s] else applyLexicons s active, [])
  | .element tag children =>
    if isDeclaration tag.name then ([.element tag children], [])
    else if tag.name = "lookup" then
      let found := r.lookup tag
      let inner := rewriteAll r (found.1.toList ++ active) spoken children
      (inner.1, found.2 ++ inner.2)
    else
      let tag' := renameToken tag
      let inner := rewriteAll r active (spoken || isSpokenForm tag'.name) children
      let rest := if tag'.name = "slide" ∧ 0 < r.afterSlide ∧ paused = false then
        [pause r.afterSlide] else []
      (.element tag' inner.1 :: rest, inner.2)

/-- Rewrites siblings in order. -/
def rewriteAll (r : Rules) (active : List Lexicon) (spoken : Bool) :
    List Node → List Node × List Warning
  | [] => ([], [])
  | n :: ns =>
    let first := rewriteNode r active spoken (startsWithBreak ns) n
    let rest := rewriteAll r active spoken ns
    (first.1 ++ rest.1, first.2 ++ rest.2)

end

/-- Rewrites a lecture for compilation, and reports what was wrong on the way. -/
def rewriteLecture (lecture : Element) (d : Declarations) (c : Config) :
    Element × List Warning :=
  let pauses := Pauses.resolve d.settings c
  let walked := rewriteAll ⟨d.lexicons, pauses.1.afterSlide⟩ [] false lecture.children
  let spoken : Element := { lecture with children := walked.1 }
  (if 0 < pauses.1.afterParagraph then pauseElement pauses.1.afterParagraph spoken else spoken,
    pauses.2 ++ walked.2)

end LecturePlan.Rewrite

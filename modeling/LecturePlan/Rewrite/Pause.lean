import LecturePlan.Config
import LecturePlan.Declaration.Extract
import LecturePlan.Rewrite.Pronunciation
/-!
# Pauses

A script may ask for a pause after every slide and at every line break between two words.  The
lengths come from the settings of the script, or else from the configuration; 0 asks for none.
`cutLines` finds the line breaks: a run of white space with a line break in it is cut once, behind
its first line break, if words stand on both sides.
-/

namespace LecturePlan.Rewrite

open LecturePlan.Markup LecturePlan.Text

/-! ## 1. Lengths -/

/-- The lengths of the pauses, in milliseconds. -/
structure Pauses where
  afterSlide : Nat
  afterParagraph : Nat
deriving DecidableEq, Repr

/-- One length: the setting, if it is a number of 32 bits, and else the default. -/
def pauseLength (s : Settings) (key : String) (default : Nat) : Nat × List Warning :=
  match s.get? key with
  | none => (default, [])
  | some value =>
    match s.int? key with
    | some (.ofNat n) =>
      if n ≤ Word.max32 then (n, [])
      else (default, [⟨"settings", .pauseNotNumber key value⟩])
    | _ => (default, [⟨"settings", .pauseNotNumber key value⟩])

/-- The lengths of the pauses of a script. -/
def Pauses.resolve (s : Settings) (c : Config) : Pauses × List Warning :=
  let slide := pauseLength s "breakAfterSlide" c.defaultBreakAfterSlide
  let paragraph := pauseLength s "breakAfterParagraph" c.defaultBreakAfterParagraph
  (⟨slide.1, paragraph.1⟩, slide.2 ++ paragraph.2)

/-- The element that asks for a pause. -/
def pause (ms : Nat) : Node :=
  .element ⟨"break", [("time", Decimal.ofNat ms ++ "ms")]⟩ []

/-! ## 2. Line breaks in text -/

/-- Whether a line ends behind a character, given what follows.  A carriage return and the line feed
behind it end one line together. -/
def endsLine (c : Char) (rest : List Char) : Bool :=
  isLineBreak c && !(c == '\r' && rest.head? == some '\n')

/-- Puts a character in front of the first of some lines. -/
def consLine (c : Char) : List (List Char) → List (List Char)
  | [] => [[c]]
  | l :: ls => (c :: l) :: ls

/-- Cuts a text at line breaks between words.  `seen` says whether a word has been read, and `broken`
whether the run of white space that is being read has had its first line break. -/
def cutLines (seen broken : Bool) : List Char → List (List Char)
  | [] => [[]]
  | c :: s =>
    let seen' := seen || !isBlank c
    let broken' := isBlank c && (broken || endsLine c s)
    if seen && !broken && endsLine c s && s.any (fun c => !isBlank c) then
      [c] :: cutLines seen' broken' s
    else consLine c (cutLines seen' broken' s)

theorem flatten_consLine (c : Char) (ls : List (List Char)) :
    (consLine c ls).flatten = c :: ls.flatten := by
  cases ls <;> simp [consLine]

/-- The lines put together are the text that was cut. -/
theorem flatten_cutLines (seen broken : Bool) (s : List Char) :
    (cutLines seen broken s).flatten = s := by
  induction s generalizing seen broken with
  | nil => rfl
  | cons c s ih =>
    simp only [cutLines]
    split
    · simp [ih]
    · rw [flatten_consLine, ih]

/-- The nodes of some lines, with a pause between two of them. -/
def joinLines (ms : Nat) : List (List Char) → List Node
  | [] => []
  | [l] => [.text (String.ofList l)]
  | l :: l' :: ls => .text (String.ofList l) :: pause ms :: joinLines ms (l' :: ls)

/-- Puts a pause at every line break between two words of a text. -/
def splitAtLineBreaks (text : String) (ms : Nat) : List Node :=
  joinLines ms (cutLines false false text.toList)

/-! ## 3. Line breaks in a tree -/

mutual

/-- Puts pauses at line breaks of a node, except in pronunciations and declarations. -/
def pauseNode (ms : Nat) : Node → List Node
  | .text s => splitAtLineBreaks s ms
  | .element tag children =>
    if isSpokenForm tag.name || isDeclaration tag.name then [.element tag children]
    else [.element tag (pauseAll ms children)]

/-- Puts pauses at line breaks of a list of nodes. -/
def pauseAll (ms : Nat) : List Node → List Node
  | [] => []
  | n :: ns => pauseNode ms n ++ pauseAll ms ns

end

theorem pauseAll_append (ms : Nat) (xs ys : List Node) :
    pauseAll ms (xs ++ ys) = pauseAll ms xs ++ pauseAll ms ys := by
  induction xs with
  | nil => rfl
  | cons x xs ih => rw [List.cons_append, pauseAll, pauseAll, ih, List.append_assoc]

/-- Puts pauses at line breaks of an element. -/
def pauseElement (ms : Nat) (e : Element) : Element :=
  if isSpokenForm e.tag.name || isDeclaration e.tag.name then e
  else { e with children := pauseAll ms e.children }

end LecturePlan.Rewrite

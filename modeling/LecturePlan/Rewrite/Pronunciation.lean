import LecturePlan.Declaration.Lexicon
/-!
# Pronunciation of written words

Lexicons in force replace the words they know by elements that say how to speak them; the written
word stays inside the element.  A word is an occurrence of a grapheme between two edges: the ends of
the text, white space, punctuation, and the two signs that stand before numbers.  Occurrences are
looked for from left to right and do not overlap, and an occurrence that is no word is passed over
as a whole.  Nothing is lost: `flatten_cutWords` puts the pieces together again.
-/

namespace LecturePlan.Rewrite

open LecturePlan.Markup LecturePlan.Text

/-! ## 1. Words -/

/-- Whether a word may begin or end next to a character; `none` is the end of the text. -/
def isEdge : Option Char → Bool
  | none => true
  | some c => isBlank c || isPunctuation c || c == '§' || c == '°'

/-- A piece of text that is cut at the occurrences of one grapheme. -/
inductive Piece where
  | plain (s : List Char)
  | word
deriving DecidableEq, Repr

/-- Puts plain characters in front of pieces. -/
def consPlain (s : List Char) : List Piece → List Piece
  | .plain t :: ps => .plain (s ++ t) :: ps
  | ps => .plain s :: ps

/-- Cuts a text at the words that are spelled like a grapheme; `before` is the character in front of
the text. -/
def cutWords (g : List Char) (before : Option Char) (s : List Char) : List Piece :=
  match s with
  | [] => []
  | c :: t =>
    if g.isPrefixOf (c :: t) then
      let rest := t.drop (g.length - 1)
      if isEdge before && isEdge rest.head? then .word :: cutWords g g.getLast? rest
      else consPlain g (cutWords g g.getLast? rest)
    else consPlain [c] (cutWords g (some c) t)
termination_by s.length
decreasing_by
  · simp only [List.length_drop, List.length_cons]
    omega
  · simp only [List.length_drop, List.length_cons]
    omega
  · simp

/-- The text of a piece. -/
def Piece.chars (g : List Char) : Piece → List Char
  | .plain s => s
  | .word => g

theorem flatMap_consPlain (g s : List Char) (ps : List Piece) :
    (consPlain s ps).flatMap (Piece.chars g) = s ++ ps.flatMap (Piece.chars g) := by
  unfold consPlain
  split <;> simp [Piece.chars]

/-- The pieces put together are the text that was cut. -/
theorem flatten_cutWords {g : List Char} (hg : g ≠ []) (before : Option Char) (s : List Char) :
    (cutWords g before s).flatMap (Piece.chars g) = s := by
  have split : ∀ (c : Char) (t : List Char), g.isPrefixOf (c :: t) = true →
      g ++ t.drop (g.length - 1) = c :: t := by
    intro c t h
    obtain ⟨u, hu⟩ := List.isPrefixOf_iff_prefix.mp h
    cases g with
    | nil => exact absurd rfl hg
    | cons d g =>
      simp only [List.cons_append, List.cons.injEq] at hu
      obtain ⟨rfl, rfl⟩ := hu
      simp
  fun_induction cutWords g before s with
  | case1 => rfl
  | case2 before c t hpre rest hedge ih =>
    rw [List.flatMap_cons, ih]
    exact split c t hpre
  | case3 before c t hpre rest hedge ih =>
    rw [flatMap_consPlain, ih]
    exact split c t hpre
  | case4 before c t hpre ih =>
    rw [flatMap_consPlain, ih, List.singleton_append]

/-! ## 2. Spoken forms -/

/-- Names of the elements whose text is a pronunciation already. -/
def isSpokenForm (name : String) : Bool := name == "sub" || name == "phoneme"

/-- The tag that says how a written word is spoken. -/
def spokenTag (l : Lexeme) (alphabet : Option String) : Tag :=
  match l.kind with
  | .alias => ⟨"sub", [("alias", l.replacement)]⟩
  | .phoneme =>
    match alphabet with
    | some a => ⟨"phoneme", [("alphabet", a), ("ph", l.replacement)]⟩
    | none => ⟨"phoneme", [("ph", l.replacement)]⟩

/-- The element that says how a written word is spoken. -/
def spokenForm (l : Lexeme) (alphabet : Option String) : Node :=
  .element (spokenTag l alphabet) [.text l.grapheme]

/-- The node of a piece. -/
def Piece.toNode (l : Lexeme) (alphabet : Option String) : Piece → Node
  | .plain s => .text (String.ofList s)
  | .word => spokenForm l alphabet

/-- Replaces the words of a text that are spelled like the grapheme of a lexeme. -/
def replaceGrapheme (text : String) (l : Lexeme) (alphabet : Option String) : List Node :=
  let pieces := cutWords l.grapheme.toList none text.toList
  if pieces.contains .word then pieces.map (Piece.toNode l alphabet) else [.text text]

/-! ## 3. Several lexicons -/

/-- A lexeme with the alphabet of its lexicon. -/
abbrev Entry := Lexeme × Option String

/-- Keeps the first entry of every grapheme, and none of an empty one. -/
def firstEntries (seen : List String) : List Entry → List Entry
  | [] => []
  | e :: es =>
    if e.1.grapheme = "" ∨ e.1.grapheme ∈ seen then firstEntries seen es
    else e :: firstEntries (e.1.grapheme :: seen) es

/-- The entries of lexicons in force, the innermost first: the first lexicon that knows a grapheme
decides how it is spoken. -/
def entriesInForce (active : List Lexicon) : List Entry :=
  firstEntries [] (active.flatMap fun x => x.lexemes.map fun l => (l, x.alphabet))

/-- Replaces the words of one entry in the text leaves of a list of pieces. -/
def applyEntry (e : Entry) (pieces : List Node) : List Node :=
  pieces.flatMap fun
    | .text s => replaceGrapheme s e.1 e.2
    | n => [n]

/-- Replaces the words that the lexicons in force know. -/
def applyLexicons (text : String) (active : List Lexicon) : List Node :=
  (entriesInForce active).foldl (fun pieces e => applyEntry e pieces) [.text text]

end LecturePlan.Rewrite

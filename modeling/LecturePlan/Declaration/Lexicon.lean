import LecturePlan.Markup.Tree
import LecturePlan.Warning
/-!
# Lexicons

A lexicon says how written words are spoken.  It is declared by an element with an id, a phonetic
alphabet if one is meant, and one lexeme for each written form.  A lexeme that is not two tags of
plain text is reported and left out, and so is a lexicon without lexemes.
-/

namespace LecturePlan

open LecturePlan.Markup

/-- How a written form is spoken. -/
inductive Lexeme.Kind where
  /-- By a pronunciation in the lexicon's alphabet. -/
  | phoneme
  /-- By another text. -/
  | alias
deriving DecidableEq, Repr

/-- A written form and what is spoken for it. -/
structure Lexeme where
  grapheme : String
  kind : Lexeme.Kind
  replacement : String
deriving DecidableEq, Repr

/-- A named list of lexemes. -/
structure Lexicon where
  id : String
  alphabet : Option String
  lexemes : List Lexeme
deriving DecidableEq, Repr

namespace Lexicon

/-! ## 1. Lexemes by their written form -/

/-- Replaces the lexeme of the same written form, or appends the lexeme. -/
def insertLexeme (l : Lexeme) : List Lexeme → List Lexeme
  | [] => [l]
  | x :: xs => if x.grapheme = l.grapheme then l :: xs else x :: insertLexeme l xs

/-- Adds a lexeme to a lexicon. -/
def insert (x : Lexicon) (l : Lexeme) : Lexicon := { x with lexemes := insertLexeme l x.lexemes }

/-- The lexeme of a written form. -/
def lookup? (x : Lexicon) (grapheme : String) : Option Lexeme :=
  x.lexemes.find? fun l => l.grapheme == grapheme

theorem find?_insertLexeme (l : Lexeme) (xs : List Lexeme) (g : String) :
    (insertLexeme l xs).find? (fun x => x.grapheme == g) =
      if l.grapheme = g then some l else xs.find? fun x => x.grapheme == g := by
  induction xs with
  | nil => by_cases h : l.grapheme = g <;> simp [insertLexeme, h]
  | cons x xs ih =>
    by_cases hx : x.grapheme = l.grapheme
    · by_cases h : l.grapheme = g <;> simp [insertLexeme, hx, h]
    · by_cases h : x.grapheme = g
      · have hl : ¬ l.grapheme = g := fun hl => hx (h.trans hl.symm)
        have hg : ¬ g = l.grapheme := fun hg => hl hg.symm
        simp [insertLexeme, h, hl, hg]
      · simp [insertLexeme, hx, h, ih]

/-- Adding a lexeme changes the answer for its written form only. -/
theorem lookup?_insert (x : Lexicon) (l : Lexeme) (g : String) :
    (x.insert l).lookup? g = if l.grapheme = g then some l else x.lookup? g :=
  find?_insertLexeme l x.lexemes g

/-! ## 2. Reading -/

/-- What the two tags of a lexeme give, as far as they have been read. -/
structure Parts where
  grapheme : Option String
  spoken : Option (Lexeme.Kind × String)

/-- What a tag inside a lexeme gives: the written form, or what is spoken. -/
inductive Role where
  | written
  | spoken (kind : Lexeme.Kind)

/-- The role of a tag by its name. -/
def Role.ofName? (name : String) : Option Role :=
  if name = "grapheme" then some .written
  else if name = "phoneme" then some (.spoken .phoneme)
  else if name = "alias" then some (.spoken .alias)
  else none

/-- Reads one tag inside a lexeme. -/
def readPart (p : Parts) (e : Element) : Parts × List Warning :=
  match Role.ofName? e.tag.name, e.children with
  | none, _ => (p, [⟨e.tag.name, .lexemePartUnknown⟩])
  | some .written, [.text s] => ({ p with grapheme := some s }, [])
  | some (.spoken kind), [.text s] => ({ p with spoken := some (kind, s) }, [])
  | some _, _ => (p, [⟨e.tag.name, .lexemePartNotText⟩])

/-- Reads tags inside a lexeme in order. -/
def readParts (p : Parts) : List Element → Parts × List Warning
  | [] => (p, [])
  | e :: es =>
    let first := readPart p e
    let rest := readParts first.1 es
    (rest.1, first.2 ++ rest.2)

/-- Reads a lexeme. -/
def readLexeme (e : Element) : Option Lexeme × List Warning :=
  if e.children.length = 2 ∧ e.childElements.length = 2 then
    let read := readParts ⟨none, none⟩ e.childElements
    let lexeme := do
      let (kind, replacement) ← read.1.spoken
      let grapheme ← read.1.grapheme
      pure ⟨grapheme, kind, replacement⟩
    (lexeme, read.2)
  else (none, [⟨"lexeme", .lexemePartCount⟩])

/-- Adds the lexemes of some elements in order. -/
def readLexemes (x : Lexicon) : List Element → Lexicon × List Warning
  | [] => (x, [])
  | e :: es =>
    let read := readLexeme e
    match read.1 with
    | some l =>
      let rest := readLexemes (x.insert l) es
      (rest.1, read.2 ++ rest.2)
    | none =>
      let rest := readLexemes x es
      (rest.1, read.2 ++ ⟨"lexeme", .lexemeInvalid x.id⟩ :: rest.2)

/-- Reads a lexicon. -/
def read (e : Element) : Option Lexicon × List Warning :=
  match e.tag.nonEmptyAttr? "xml:id" with
  | none => (none, [⟨"lexicon", .lexiconWithoutId⟩])
  | some id =>
    let found := readLexemes ⟨id, e.tag.nonEmptyAttr? "alphabet", []⟩
      (e.childElements.filter fun c => c.tag.name == "lexeme")
    if found.1.lexemes.isEmpty then (none, found.2 ++ [⟨"lexicon", .lexiconEmpty id⟩])
    else (some found.1, found.2)

end Lexicon

end LecturePlan

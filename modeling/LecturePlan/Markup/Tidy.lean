import LecturePlan.Text.CharClass
/-!
# Tidy section text

The text of a speech section is tidied in two steps.  White space in front of the tag of an inline
SSML element becomes one space, since a line break there is no pause; and white space that indents
a line is dropped.  Each step is a single pass from left to right: what a step has written is not
looked at again.  Both steps only replace white space by shorter white space that is not empty.
-/

namespace LecturePlan.Markup

open LecturePlan.Text

/-! ## 1. White space before inline tags -/

/-- The SSML elements that stand inside a line of speech. -/
def inlineNames : List (List Char) :=
  ["mark", "s", "token", "w", "emphasis", "break", "prosody", "say-as", "sub", "lang", "phoneme",
    "amazon:domain", "amazon:effect", "amazon:emotion"].map String.toList

/-- Characters that end the name in a tag. -/
def endsTagName (c : Char) : Bool := isBlank c || c == '/' || c == '>'

/-- Cuts the text after a `<` behind the name of an inline element and the character that ends the
name, if it starts with these. -/
def cutInlineTag (s : List Char) : Option (List Char × List Char) :=
  let cut := splitBefore endsTagName s
  match cut.2 with
  | c :: rest => if inlineNames.contains cut.1 then some (cut.1 ++ [c], rest) else none
  | [] => none

theorem cutInlineTag_append {s name rest : List Char} (h : cutInlineTag s = some (name, rest)) :
    name ++ rest = s := by
  have happ := splitBefore_append endsTagName s
  unfold cutInlineTag at h
  simp only at h
  split at h
  · next c r hr =>
    rw [hr] at happ
    split at h
    · simp only [Option.some.injEq, Prod.mk.injEq] at h
      obtain ⟨rfl, rfl⟩ := h
      rw [List.append_assoc]
      exact happ
    · simp at h
  · simp at h

/-- Cuts a text that goes on after white space behind the opening of an inline tag, if one stands
there. -/
def cutAfterBlank : List Char → Option (List Char × List Char)
  | '<' :: s => (cutInlineTag s).map fun cut => ('<' :: cut.1, cut.2)
  | _ => none

theorem cutAfterBlank_append {s tag rest : List Char} (h : cutAfterBlank s = some (tag, rest)) :
    tag ++ rest = s := by
  unfold cutAfterBlank at h
  split at h
  · next s' =>
    cases hc : cutInlineTag s' with
    | none => simp [hc] at h
    | some cut =>
      simp only [hc, Option.map_some, Option.some.injEq, Prod.mk.injEq] at h
      rw [← h.1, ← h.2, List.cons_append, cutInlineTag_append hc]
  · simp at h

/-- Writes one space in place of every run of white space that stands before an inline tag.  The
character that ends the tag's name is copied with the name. -/
def joinInlineTags (s : List Char) : List Char :=
  match s with
  | [] => []
  | c :: s =>
    if isBlank c then
      match _h : cutAfterBlank (s.dropWhile isBlank) with
      | some (tag, rest) => ' ' :: tag ++ joinInlineTags rest
      | none => c :: s.takeWhile isBlank ++ joinInlineTags (s.dropWhile isBlank)
    else c :: joinInlineTags s
termination_by s.length
decreasing_by
  · have h1 := congrArg List.length (cutAfterBlank_append _h)
    have h2 := List.Sublist.length_le (List.dropWhile_sublist isBlank (l := s))
    simp only [List.length_append, List.length_cons] at h1 ⊢
    omega
  · have h2 := List.Sublist.length_le (List.dropWhile_sublist isBlank (l := s))
    simp only [List.length_cons]
    omega
  · simp

/-! ## 2. Indentation -/

/-- Drops spaces and tabs that follow a line break; `atBreak` says whether one has just been read. -/
def dropIndent (atBreak : Bool) : List Char → List Char
  | [] => []
  | c :: s =>
    if isLineBreak c then c :: dropIndent true s
    else if atBreak && isIndent c then dropIndent true s
    else c :: dropIndent false s

/-! ## 3. Both -/

/-- Tidies the characters of a section. -/
def tidy (s : List Char) : List Char := dropIndent false (joinInlineTags s)

/-- Tidies the text of a section. -/
def tidyString (s : String) : String := String.ofList (tidy s.toList)

end LecturePlan.Markup

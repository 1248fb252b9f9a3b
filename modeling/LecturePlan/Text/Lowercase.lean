import LecturePlan.Text.CaseTable
import LecturePlan.Text.CharClass
/-!
# Lower case

Names of voices are compared by their lower-case form.  Every character is mapped by itself, with
two exceptions: a capital I with a dot above becomes two characters, and a capital sigma becomes the
final form where it ends a word, that is, where a letter stands before it and none behind it.
-/

namespace LecturePlan.Text

/-- Whether a code point lies in one of some ranges. -/
def inRanges (ranges : List (Nat × Nat)) (c : Char) : Bool :=
  ranges.any fun r => r.1 ≤ c.toNat && c.toNat ≤ r.2

/-- Characters that the search for a neighbouring letter passes over. -/
def isIgnorable (c : Char) : Bool := inRanges ignorableRanges c

/-- Letters that have case. -/
def isCased (c : Char) : Bool := inRanges casedRanges c

/-- The capital I with a dot above. -/
def dottedI : Char := Char.ofNat 0x130

/-- The capital sigma. -/
def capitalSigma : Char := Char.ofNat 0x3A3

/-- The small sigma inside a word. -/
def smallSigma : Char := Char.ofNat 0x3C3

/-- The small sigma at the end of a word. -/
def finalSigma : Char := Char.ofNat 0x3C2

/-- The small letter of a single character. -/
def lowerChar (c : Char) : Char :=
  let n := c.toNat
  match lowerRanges.find? fun r => r.1 ≤ n && n ≤ r.2.1 && (n - r.1) % r.2.2.1 == 0 with
  | some r => Char.ofNat (n + r.2.2.2).toNat
  | none => c

/-- Whether a letter is the first character of a text that is not passed over. -/
def meetsLetter (s : List Char) : Bool :=
  match s.dropWhile isIgnorable with
  | c :: _ => isCased c
  | [] => false

/-- Lower case of a text, where `before` is what stands in front of it, the last character first. -/
def lowerFrom (before : List Char) : List Char → List Char
  | [] => []
  | c :: s =>
    (if c = capitalSigma then [if meetsLetter before && !meetsLetter s then finalSigma else smallSigma]
      else if c = dottedI then ['i', Char.ofNat 0x307]
      else if c.toNat < 0x80 then [asciiLower c]
      else [lowerChar c]) ++ lowerFrom (c :: before) s

/-- The lower-case form of a text. -/
def lowercase (s : String) : String := String.ofList (lowerFrom [] s.toList)

end LecturePlan.Text

/-!
# Character classes

The classes of characters that scripts are cut by.  `isBlank` is the White_Space property of
Unicode: it decides which text is "only white space", which runs are collapsed, and where a word
ends.  The other classes are sets of ASCII characters.
-/

namespace LecturePlan.Text

/-! ## 1. White space -/

/-- Characters with the White_Space property: the ASCII controls from tab to carriage return, the
space, the next-line control, and the spaces and separators of the higher blocks. -/
def isBlank (c : Char) : Bool :=
  let n := c.toNat
  (9 ≤ n && n ≤ 13) || n == 0x20 || n == 0x85 || n == 0xA0 || n == 0x1680 ||
    (0x2000 ≤ n && n ≤ 0x200A) || n == 0x2028 || n == 0x2029 || n == 0x202F || n == 0x205F ||
    n == 0x3000

/-- The two characters that end a line. -/
def isLineBreak (c : Char) : Bool := c == '\r' || c == '\n'

/-- The two characters that indent a line. -/
def isIndent (c : Char) : Bool := c == ' ' || c == '\t'

theorem isBlank_of_isLineBreak {c : Char} (h : isLineBreak c = true) : isBlank c = true := by
  simp only [isLineBreak, Bool.or_eq_true, beq_iff_eq] at h
  rcases h with rfl | rfl <;> decide

theorem isBlank_of_isIndent {c : Char} (h : isIndent c = true) : isBlank c = true := by
  simp only [isIndent, Bool.or_eq_true, beq_iff_eq] at h
  rcases h with rfl | rfl <;> decide

/-! ## 2. ASCII classes -/

/-- Punctuation of ASCII: the four ranges of graphic characters around digits and letters. -/
def isPunctuation (c : Char) : Bool :=
  let n := c.toNat
  (0x21 ≤ n && n ≤ 0x2F) || (0x3A ≤ n && n ≤ 0x40) || (0x5B ≤ n && n ≤ 0x60) ||
    (0x7B ≤ n && n ≤ 0x7E)

/-- The decimal digits `0` to `9`. -/
def isDigit (c : Char) : Bool := '0'.toNat ≤ c.toNat && c.toNat ≤ '9'.toNat

/-- An ASCII capital becomes its small letter; all else stays. -/
def asciiLower (c : Char) : Char :=
  if 'A'.toNat ≤ c.toNat && c.toNat ≤ 'Z'.toNat then Char.ofNat (c.toNat + 32) else c

/-- Equality of two texts up to the case of ASCII letters. -/
def sameIgnoringCase (s t : List Char) : Bool := s.map asciiLower == t.map asciiLower

/-- Text that is empty or all white space. -/
def allBlank (s : List Char) : Bool := s.all isBlank

theorem allBlank_cons (c : Char) (s : List Char) :
    allBlank (c :: s) = (isBlank c && allBlank s) := rfl

theorem allBlank_append (s t : List Char) : allBlank (s ++ t) = (allBlank s && allBlank t) := by
  simp [allBlank]

/-! ## 3. Searching -/

/-- The text up to the first character in a class, and from it on. -/
def splitBefore (p : Char → Bool) (s : List Char) : List Char × List Char :=
  (s.takeWhile fun c => !p c, s.dropWhile fun c => !p c)

/-- What follows the first occurrence of `mark` in a text. -/
def afterFirst? (mark : List Char) : List Char → Option (List Char)
  | [] => if mark.isEmpty then some [] else none
  | c :: s => if mark.isPrefixOf (c :: s) then some ((c :: s).drop mark.length) else afterFirst? mark s

/-- Cutting a text before a character loses nothing. -/
theorem splitBefore_append (p : Char → Bool) (s : List Char) :
    (splitBefore p s).1 ++ (splitBefore p s).2 = s := List.takeWhile_append_dropWhile

/-- A text is cut before the first character of a class, wherever that stands. -/
theorem splitBefore_of_forall {p : Char → Bool} {s : List Char} (h : ∀ c ∈ s, p c = false)
    {d : Char} (hd : p d = true) (rest : List Char) :
    splitBefore p (s ++ d :: rest) = (s, d :: rest) := by
  have hs : ∀ c ∈ s, (!p c) = true := fun c hc => by rw [h c hc, Bool.not_false]
  rw [splitBefore, List.takeWhile_append_of_pos hs, List.dropWhile_append_of_pos hs,
    List.takeWhile_cons, List.dropWhile_cons, hd]
  simp

/-- A text without characters of a class is not cut. -/
theorem splitBefore_self {p : Char → Bool} {s : List Char} (h : ∀ c ∈ s, p c = false) :
    splitBefore p s = (s, []) := by
  have hs : ∀ c ∈ s, (!p c) = true := fun c hc => by rw [h c hc, Bool.not_false]
  have htake : (s ++ []).takeWhile (fun c => !p c) = s ++ [] := List.takeWhile_append_of_pos hs
  have hdrop : (s ++ []).dropWhile (fun c => !p c) = [] := List.dropWhile_append_of_pos hs
  rw [List.append_nil] at htake hdrop
  rw [splitBefore, htake, hdrop]

/-- The characters in front of the first one of a class are the same if one of the class is added. -/
theorem splitBefore_append_cons (p : Char → Bool) (s : List Char) {d : Char} (hd : p d = true)
    (rest : List Char) :
    splitBefore p (s ++ d :: rest) = ((splitBefore p s).1, (splitBefore p s).2 ++ d :: rest) := by
  induction s with
  | nil => simp [splitBefore, hd]
  | cons c s ih =>
    cases hc : p c with
    | true => simp [splitBefore, hc]
    | false =>
      have hpair := Prod.mk.inj ih
      simp only [splitBefore, List.cons_append, List.takeWhile_cons, List.dropWhile_cons, hc,
        Bool.not_false, if_true] at hpair ⊢
      rw [hpair.1, hpair.2]

theorem length_splitBefore_snd_le (p : Char → Bool) (s : List Char) :
    (splitBefore p s).2.length ≤ s.length := by
  have h := congrArg List.length (splitBefore_append p s)
  simp only [List.length_append] at h
  omega

end LecturePlan.Text

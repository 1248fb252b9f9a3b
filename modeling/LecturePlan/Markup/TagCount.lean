/-!
# Counting tag characters

A budget may count the characters of tags apart from the others.  A tag is what stands from a `<` to
the next `>` on the same line, both included.  A `<` whose line ends first is no tag.
-/

namespace LecturePlan.Markup

/-- Counts tag characters, where `opened` characters of a possible tag have been read: none if no
`<` is open. -/
def countTags (opened : Nat) : List Char → Nat
  | [] => 0
  | c :: s =>
    if opened = 0 then countTags (if c = '<' then 1 else 0) s
    else if c = '>' then opened + 1 + countTags 0 s
    else if c = '\n' then countTags 0 s
    else countTags (opened + 1) s

/-- The number of characters of a text that belong to tags. -/
def tagLength (s : List Char) : Nat := countTags 0 s

/-- The characters counted are among those that were read. -/
theorem countTags_le (opened : Nat) (s : List Char) : countTags opened s ≤ opened + s.length := by
  induction s generalizing opened with
  | nil => simp [countTags]
  | cons c s ih =>
    have h0 := ih 0
    have h1 := ih 1
    have h2 := ih (opened + 1)
    simp only [countTags, List.length_cons]
    split
    · split <;> omega
    · split
      · omega
      · split <;> omega

/-- No text has more tag characters than characters. -/
theorem tagLength_le (s : List Char) : tagLength s ≤ s.length := by
  have h := countTags_le 0 s
  simpa [tagLength] using h

end LecturePlan.Markup

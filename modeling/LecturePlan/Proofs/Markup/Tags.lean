import LecturePlan.Markup.TagCount
/-!
# The tags of a text

`countTags` counts characters in one pass and never says which tags they stand in.  Here the tags of
a text are found one by one, from left to right: at each place the tag that begins there is taken,
and the search goes on behind it; where none begins, it goes on one character later.  This is done
for any text, be it markup or not.

* `exists_findsTags`: the search comes to an end on every text,
* `FindsTags.flatten_sublist`: the tags found do not overlap, all of them stand in the text, in order,
* `FindsTags.tagLength_eq`: the characters in them are those that are counted.

A `<` that no `>` of its line follows carries the argument: the pass counts up from it in vain, and
must come out as if it had never opened (`countTags_of_not_closes`).
-/

namespace LecturePlan.Markup

/-! ## 1. Finding tags -/

/-- What may stand between the brackets of a tag: anything up to the first `>`, on one line. -/
def InTag (body : List Char) : Prop := ∀ c ∈ body, c ≠ '>' ∧ c ≠ '\n'

/-- Behind a `<`, a text closes a tag if a `>` comes before the line ends. -/
def Closes (s : List Char) : Prop := ∃ body rest, InTag body ∧ s = body ++ '>' :: rest

/-- A text has these tags, in order. -/
inductive FindsTags : List Char → List (List Char) → Prop
  | nil : FindsTags [] []
  | tag {body rest ts} : InTag body → FindsTags rest ts →
      FindsTags ('<' :: (body ++ '>' :: rest)) (('<' :: (body ++ ['>'])) :: ts)
  | skip {c s ts} : ¬ (c = '<' ∧ Closes s) → FindsTags s ts → FindsTags (c :: s) ts

theorem InTag.nil : InTag [] := fun _ hc => absurd hc List.not_mem_nil

theorem inTag_cons {c : Char} {body : List Char} :
    InTag (c :: body) ↔ (c ≠ '>' ∧ c ≠ '\n') ∧ InTag body := List.forall_mem_cons

/-- The tags of a text can be found. -/
theorem exists_findsTags (s : List Char) : ∃ ts, FindsTags s ts := by
  induction h : s.length using Nat.strongRecOn generalizing s with
  | _ n ih =>
    cases s with
    | nil => exact ⟨[], .nil⟩
    | cons c s =>
      by_cases ht : c = '<' ∧ Closes s
      · obtain ⟨rfl, body, rest, hbody, rfl⟩ := ht
        obtain ⟨ts, hts⟩ := ih rest.length (by simp at h; omega) rest rfl
        exact ⟨_, .tag hbody hts⟩
      · obtain ⟨ts, hts⟩ := ih s.length (by simp at h; omega) s rfl
        exact ⟨ts, .skip ht hts⟩

/-- The tags that are found stand in the text one behind the other. -/
theorem FindsTags.flatten_sublist {s : List Char} {ts : List (List Char)} (h : FindsTags s ts) :
    ts.flatten.Sublist s := by
  induction h with
  | nil => exact .slnil
  | @tag body rest ts hbody h ih =>
    have hsplit : '<' :: (body ++ '>' :: rest) = ('<' :: (body ++ ['>'])) ++ rest := by simp
    rw [List.flatten_cons, hsplit]
    exact (List.Sublist.refl _).append ih
  | skip hc h ih => exact ih.cons _

/-! ## 2. Counting them -/

/-- A tag that is closed adds all its characters. -/
theorem countTags_inTag {body : List Char} (h : InTag body) (opened : Nat) (rest : List Char) :
    countTags (opened + 1) (body ++ '>' :: rest) =
      opened + 1 + (body.length + 1) + countTags 0 rest := by
  induction body generalizing opened with
  | nil => simp [countTags]
  | cons c body ih =>
    obtain ⟨⟨hclose, hline⟩, hbody⟩ := inTag_cons.mp h
    rw [List.cons_append, countTags, if_neg (by omega), if_neg hclose, if_neg hline, ih hbody,
      List.length_cons]
    omega

/-- What is not closed counts as if nothing were open. -/
theorem countTags_of_not_closes {s : List Char} (h : ¬ Closes s) (opened : Nat) :
    countTags (opened + 1) s = countTags 0 s := by
  induction s generalizing opened with
  | nil => rfl
  | cons c s ih =>
    have hclose : c ≠ '>' := by
      rintro rfl
      exact h ⟨[], s, .nil, rfl⟩
    by_cases hline : c = '\n'
    · subst hline
      simp [countTags]
    · have hs : ¬ Closes s := by
        rintro ⟨body, rest, hbody, rfl⟩
        exact h ⟨c :: body, rest, inTag_cons.mpr ⟨⟨hclose, hline⟩, hbody⟩, rfl⟩
      have hone : countTags (if c = '<' then 1 else 0) s = countTags 0 s := by
        split
        · exact ih hs 0
        · rfl
      rw [countTags, if_neg (by omega), if_neg hclose, if_neg hline, ih hs, countTags, if_pos rfl,
        hone]

/-- **The count is that of the characters in tags.** -/
theorem FindsTags.tagLength_eq {s : List Char} {ts : List (List Char)} (h : FindsTags s ts) :
    tagLength s = ts.flatten.length := by
  induction h with
  | nil => rfl
  | @tag body rest ts hbody h ih =>
    have hrest : countTags 0 rest = ts.flatten.length := ih
    rw [tagLength, countTags, if_pos rfl, if_pos rfl, countTags_inTag hbody 0, hrest]
    simp
    omega
  | @skip c s ts hc h ih =>
    have hs : countTags 0 s = ts.flatten.length := ih
    rw [tagLength, countTags, if_pos rfl, ← hs]
    split
    · next hopen => exact countTags_of_not_closes (fun hclose => hc ⟨hopen, hclose⟩) 0
    · rfl

end LecturePlan.Markup

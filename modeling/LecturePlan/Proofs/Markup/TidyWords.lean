import LecturePlan.Proofs.Markup.Tidied
/-!
# Words of a tidied text

Tidying replaces white space by white space, so it leaves the words of a text alone, whatever the text is
(`words_tidyString`).

The two passes are followed with the text in front of them (`words_append_joinInlineTags`,
`words_append_dropIndent`): a word may have begun there.  White space ends it in any case, so each pass
has only to leave some of what it finds.
-/

namespace LecturePlan.Text

/-! ## 1. Words -/

/-- The words of a text: what stands between its white space. -/
def words (s : List Char) : List (List Char) := (s.splitOnP isBlank).filter fun word => !word.isEmpty

/-- **White space ends a word.** -/
theorem words_append_cons {c : Char} (hc : isBlank c = true) (s t : List Char) :
    words (s ++ c :: t) = words s ++ words t := by
  rw [words, List.splitOnP_append_cons s t hc, List.filter_append, words, words]

/-- White space in front of a text is no part of its words. -/
theorem words_append_of_allBlank {u : List Char} (hu : allBlank u = true) (s : List Char) :
    words (u ++ s) = words s := by
  induction u with
  | nil => rfl
  | cons c u ih =>
    rw [allBlank_cons, Bool.and_eq_true] at hu
    have hnil : words [] = [] := rfl
    have hcons := words_append_cons hu.1 [] (u ++ s)
    rw [hnil, List.nil_append, List.nil_append] at hcons
    rw [List.cons_append, hcons, ih hu.2]

/-- How much white space ends a word does not matter. -/
theorem words_append_gap {c : Char} (hc : isBlank c = true) {u : List Char}
    (hu : allBlank u = true) (w s : List Char) :
    words (w ++ c :: (u ++ s)) = words w ++ words s := by
  rw [words_append_cons hc, words_append_of_allBlank hu]

/-- The words are all that is no white space. -/
theorem flatten_words (s : List Char) : (words s).flatten = s.filter fun c => !isBlank c := by
  rw [words, List.flatten_filter_not_isEmpty]
  induction s with
  | nil => rfl
  | cons c s ih =>
    rw [List.splitOnP_cons_eq_if_modifyHead]
    cases hc : isBlank c with
    | true => simpa [hc] using ih
    | false =>
      obtain ⟨l, ls, hsplit⟩ := List.exists_cons_of_ne_nil (List.splitOnP_ne_nil isBlank s)
      rw [hsplit] at ih ⊢
      simpa [hc] using ih

end LecturePlan.Text

namespace LecturePlan.Markup

open LecturePlan.Text

/-! ## 2. Tidying -/

theorem words_append_joinInlineTags (w s : List Char) :
    words (w ++ joinInlineTags s) = words (w ++ s) := by
  fun_induction joinInlineTags s generalizing w with
  | case1 => rfl
  | case2 c s hc tag rest htag ih =>
    have hgap : s = s.takeWhile isBlank ++ (tag ++ rest) := by
      rw [cutAfterBlank_append htag, List.takeWhile_append_dropWhile]
    have hblank : allBlank (s.takeWhile isBlank) = true := List.all_takeWhile
    have htail := ih tag
    conv_rhs => rw [hgap, words_append_gap hc hblank]
    rw [List.cons_append, words_append_cons (by decide), htail]
  | case3 c s hc hnone ih =>
    have hblank : allBlank (s.takeWhile isBlank) = true := List.all_takeWhile
    have hgap : s = s.takeWhile isBlank ++ s.dropWhile isBlank :=
      List.takeWhile_append_dropWhile.symm
    have htail := ih []
    conv_rhs => rw [hgap, words_append_gap hc hblank]
    rw [List.cons_append, words_append_gap hc hblank]
    exact congrArg _ htail
  | case4 c s hc ih =>
    have htail := ih (w ++ [c])
    rwa [List.append_assoc, List.append_assoc] at htail

/-- Where a line has just ended, so has the word in front of it. -/
theorem words_append_dropIndent (w : List Char) (atBreak : Bool) (s : List Char)
    (h : atBreak = true → ∃ c ∈ w.getLast?, isBlank c = true) :
    words (w ++ dropIndent atBreak s) = words (w ++ s) := by
  induction s generalizing w atBreak with
  | nil => rfl
  | cons c s ih =>
    have hkept : ∀ b, (b = true → isBlank c = true) →
        words (w ++ c :: dropIndent b s) = words (w ++ c :: s) := by
      intro b hb
      have htail := ih (w ++ [c]) b fun hbreak => ⟨c, by simp, hb hbreak⟩
      rwa [List.append_assoc, List.append_assoc] at htail
    rw [dropIndent]
    split
    · next hbreak => exact hkept true fun _ => isBlank_of_isLineBreak hbreak
    · split
      · next hdropped =>
        obtain ⟨rfl, hindent⟩ := Bool.and_eq_true_iff.mp hdropped
        obtain ⟨d, hlast, hd⟩ := h rfl
        obtain ⟨v, rfl⟩ := List.getLast?_eq_some_iff.mp hlast
        have hgap := words_append_gap hd (u := [c])
          (by rw [allBlank_cons, isBlank_of_isIndent hindent]; rfl) v s
        rw [ih _ true h]
        simp only [List.append_assoc, List.singleton_append] at hgap ⊢
        rw [hgap, words_append_cons hd]
      · exact hkept false fun h => absurd h Bool.false_ne_true

/-- **Tidying leaves the words of a text alone**: no character of a word is touched, and no two words
are joined or taken apart. -/
theorem words_tidyString (s : String) :
    words (tidyString s).toList = words s.toList ∧
      (tidyString s).toList.filter (fun c => !isBlank c) =
        s.toList.filter fun c => !isBlank c := by
  have hwords : words (tidyString s).toList = words s.toList := by
    have hjoin := words_append_joinInlineTags [] s.toList
    have hdrop := words_append_dropIndent [] false (joinInlineTags s.toList)
      fun h => absurd h Bool.false_ne_true
    rw [tidyString, String.toList_ofList, tidy]
    exact hdrop.trans hjoin
  exact ⟨hwords, by rw [← flatten_words, hwords, flatten_words]⟩

end LecturePlan.Markup

import LecturePlan.Proofs.Rewrite.KeepsWording
import LecturePlan.Proofs.Rewrite.Twice
/-!
# Pauses between paragraphs

`cutLines` cuts a text in one pass, and remembers of what it has read whether there was a word and
whether a line has ended since.  Here the cuts are said without the pass.  A `Gap` is white space
between two words, as far as it goes.

* In a gap in which a line ends stands one pause, directly behind its first line break.
* Pauses stand in such gaps only.

Both are read off one equation for each stretch of a text (`cutPlaces_gap` for a gap): what the pass
remembers at the beginning of a word makes no difference from the word on, so what is cut behind a
word does not depend on what stands in front of it.
-/

namespace LecturePlan.Rewrite

open LecturePlan.Markup LecturePlan.Text

/-! ## 1. Gaps -/

/-- **A gap of a text**: white space with a word in front of it and a word behind it. -/
structure Gap (text before run after : List Char) : Prop where
  whole : text = before ++ run ++ after
  blank : allBlank run = true
  wordBefore : ∃ c ∈ before.getLast?, isBlank c = false
  wordBehind : ∃ c ∈ after.head?, isBlank c = false

/-- The number of characters of a text as far as its first line break, and this with it.  A carriage
return and the line feed behind it are one line break. -/
def firstLineLength : List Char → Nat
  | [] => 0
  | '\r' :: '\n' :: _ => 2
  | c :: s => if isLineBreak c then 1 else firstLineLength s + 1

/-- How many characters of text stand in front of each pause, if `read` stand in front of the nodes. -/
def pausePlaces (read : Nat) : List Node → List Nat
  | [] => []
  | .text s :: ns => pausePlaces (read + s.length) ns
  | .element _ _ :: ns => read :: pausePlaces read ns

theorem firstLineLength_le (s : List Char) : firstLineLength s ≤ s.length := by
  fun_induction firstLineLength s with
  | case1 => exact Nat.le_refl _
  | case2 => simp
  | case3 => simp
  | case4 c s _ _ ih => exact Nat.succ_le_succ ih

/-- The line ends behind its first character. -/
theorem firstLineLength_of_endsLine {c : Char} {s : List Char} (h : endsLine c s = true) :
    firstLineLength (c :: s) = 1 := by
  obtain ⟨hbreak, hpair⟩ : isLineBreak c = true ∧ (c ≠ '\r' ∨ s.head? ≠ some '\n') := by
    simpa [endsLine] using h
  rw [firstLineLength.eq_def]
  split
  · next heq => cases heq
  · next heq =>
    obtain ⟨rfl, rfl⟩ := List.cons.inj heq
    exact hpair.elim (absurd rfl) (absurd rfl)
  · next heq =>
    obtain ⟨rfl, rfl⟩ := List.cons.inj heq
    exact if_pos hbreak

/-- The line goes on behind its first character, which may be the first half of its line break. -/
theorem firstLineLength_of_not_endsLine {c : Char} {s : List Char} (h : endsLine c s = false) :
    (c :: s).any isLineBreak = s.any isLineBreak ∧
      firstLineLength (c :: s) = firstLineLength s + 1 := by
  cases hbreak : isLineBreak c with
  | false =>
    refine ⟨by rw [List.any_cons, hbreak, Bool.false_or], ?_⟩
    rw [firstLineLength.eq_def]
    split
    · next heq => cases heq
    · next heq =>
      obtain ⟨rfl, -⟩ := List.cons.inj heq
      cases hbreak
    · next heq =>
      obtain ⟨rfl, rfl⟩ := List.cons.inj heq
      rw [if_neg (by rw [hbreak]; exact Bool.false_ne_true)]
  | true =>
    obtain ⟨rfl, hhead⟩ : c = '\r' ∧ s.head? = some '\n' := by simpa [endsLine, hbreak] using h
    obtain ⟨s, rfl⟩ := List.head?_eq_some_iff.mp hhead
    exact ⟨rfl, rfl⟩

/-! ## 2. Places of cuts -/

/-- Where a text is cut, if `read` characters stand in front of it. -/
def cutPlaces (read : Nat) (seen broken : Bool) : List Char → List Nat
  | [] => []
  | c :: s =>
    let rest := cutPlaces (read + 1) (seen || !isBlank c) (isBlank c && (broken || endsLine c s)) s
    if seen && !broken && endsLine c s && s.any (fun c => !isBlank c) then (read + 1) :: rest
    else rest

/-- Pauses stand where the text is cut. -/
theorem pausePlaces_cutLines (ms read : Nat) (seen broken : Bool) (s : List Char) :
    pausePlaces read (joinLines ms (cutLines seen broken s)) = cutPlaces read seen broken s := by
  induction s generalizing read seen broken with
  | nil => rfl
  | cons c s ih =>
    obtain ⟨l, ls, hrest, -⟩ :=
      exists_cutLines (seen || !isBlank c) (isBlank c && (broken || endsLine c s)) s
    have hplaces := ih (read + 1) (seen || !isBlank c) (isBlank c && (broken || endsLine c s))
    rw [hrest] at hplaces
    rw [cutLines, cutPlaces, hrest, ← hplaces]
    split
    · simp [joinLines, pausePlaces, pause]
    · cases ls with
      | nil => rfl
      | cons l' ls => simp [consLine, joinLines, pausePlaces, pause, Nat.add_comm, Nat.add_left_comm]

section Places

variable (read : Nat) (seen broken : Bool)

/-- A text is not cut in front of a word, and what is cut behind does not depend on what was read. -/
theorem cutPlaces_word {d : Char} (hd : isBlank d = false) (s : List Char) :
    cutPlaces read seen broken (d :: s) = cutPlaces (read + 1) true false s := by
  have hends : endsLine d s = false := by
    rw [endsLine, Bool.eq_false_iff.mpr fun h => Bool.eq_false_iff.mp hd (isBlank_of_isLineBreak h),
      Bool.false_and]
  simp [cutPlaces, hd, hends]

/-- Nothing is cut where no word follows. -/
theorem cutPlaces_of_allBlank {s : List Char} (h : allBlank s = true) :
    cutPlaces read seen broken s = [] := by
  induction s generalizing read seen broken with
  | nil => rfl
  | cons c s ih =>
    rw [allBlank_cons, Bool.and_eq_true] at h
    have hwords : s.any (fun c => !isBlank c) = false := by
      simpa [allBlank] using h.2
    rw [cutPlaces, hwords, Bool.and_false, if_neg Bool.false_ne_true]
    exact ih _ _ _ h.2

/-- Nothing is cut in front of the first word, and nothing in a gap once it has been cut. -/
theorem cutPlaces_uncut {run : List Char} (hrun : allBlank run = true) {d : Char}
    (hd : isBlank d = false) (s : List Char) (h : (seen && !broken) = false) :
    cutPlaces read seen broken (run ++ d :: s) = cutPlaces (read + run.length + 1) true false s := by
  induction run generalizing read seen broken with
  | nil => exact cutPlaces_word read seen broken hd s
  | cons c run ih =>
    rw [allBlank_cons, Bool.and_eq_true] at hrun
    have hnext : ((seen || !isBlank c) &&
        !(isBlank c && (broken || endsLine c (run ++ d :: s)))) = false := by
      cases seen with
      | false => simp [hrun.1]
      | true =>
        have hbroken : broken = true := by simpa using h
        simp [hrun.1, hbroken]
    rw [List.cons_append, cutPlaces, h, Bool.false_and, Bool.false_and, if_neg Bool.false_ne_true,
      ih _ _ _ hrun.2 hnext, List.length_cons, Nat.add_right_comm read 1, Nat.add_assoc read]

/-- **A gap is cut behind its first line break**, if a line ends in it, and nowhere else. -/
theorem cutPlaces_gap {run : List Char} (hrun : allBlank run = true) {d : Char}
    (hd : isBlank d = false) (s : List Char) :
    cutPlaces read true false (run ++ d :: s) =
      (if run.any isLineBreak then [read + firstLineLength run] else []) ++
        cutPlaces (read + run.length + 1) true false s := by
  induction run generalizing read with
  | nil => exact cutPlaces_word read true false hd s
  | cons c run ih =>
    rw [allBlank_cons, Bool.and_eq_true] at hrun
    -- the word behind the gap is no part of its line breaks
    have hends : endsLine c (run ++ d :: s) = endsLine c run := by
      cases run with
      | nil =>
        have hline : d ≠ '\n' := by rintro rfl; cases hd
        simp [endsLine, hline]
      | cons e run => rfl
    have hword : (run ++ d :: s).any (fun c => !isBlank c) = true := by simp [hd]
    have hlength : read + 1 + run.length + 1 = read + (c :: run).length + 1 := by
      rw [List.length_cons]
      omega
    rw [List.cons_append, cutPlaces, hends, hword]
    cases hline : endsLine c run with
    | true =>
      have hbreak : isLineBreak c = true := (Bool.and_eq_true_iff.mp hline).1
      have hrest := cutPlaces_uncut (read + 1) true true hrun.2 hd s rfl
      rw [hlength] at hrest
      simp [hrun.1, hbreak, firstLineLength_of_endsLine hline, hrest]
    | false =>
      obtain ⟨hany, hfirst⟩ := firstLineLength_of_not_endsLine hline
      have hrest := ih (read + 1) hrun.2
      rw [hlength] at hrest
      have hsum : read + 1 + firstLineLength run = read + (firstLineLength run + 1) := by omega
      rw [hany, hfirst, ← hsum]
      simp [hrun.1, hrest]

/-- **A cut at a word is a cut of the whole text.**  In front of the word it is at some places, and
behind it, it does not depend on what stands in front. -/
theorem exists_cutPlaces_word {d : Char} (hd : isBlank d = false) (u s : List Char) :
    ∃ places, (∀ p ∈ places, p ≤ read + u.length) ∧
      cutPlaces read seen broken (u ++ d :: s) =
        places ++ cutPlaces (read + u.length + 1) true false s := by
  induction u generalizing read seen broken with
  | nil =>
    exact ⟨[], fun p hp => absurd hp List.not_mem_nil, cutPlaces_word read seen broken hd s⟩
  | cons c u ih =>
    obtain ⟨places, hle, hplaces⟩ := ih (read + 1) (seen || !isBlank c)
      (isBlank c && (broken || endsLine c (u ++ d :: s)))
    have hlength : read + 1 + u.length = read + (c :: u).length := by
      rw [List.length_cons]
      omega
    rw [hlength] at hle hplaces
    rw [List.cons_append, cutPlaces, hplaces]
    split
    · refine ⟨(read + 1) :: places, List.forall_mem_cons.mpr ⟨?_, hle⟩, rfl⟩
      rw [List.length_cons]
      omega
    · exact ⟨places, hle, rfl⟩

theorem lt_of_mem_cutPlaces {s : List Char} {p : Nat} (h : p ∈ cutPlaces read seen broken s) :
    read < p := by
  induction s generalizing read seen broken with
  | nil => exact absurd h List.not_mem_nil
  | cons c s ih =>
    rw [cutPlaces] at h
    split at h
    · rcases List.mem_cons.mp h with rfl | h
      · exact Nat.lt_succ_self read
      · exact Nat.lt_of_succ_lt (ih _ _ _ h)
    · exact Nat.lt_of_succ_lt (ih _ _ _ h)

end Places

/-! ## 3. Cuts in gaps -/

/-- A text is blank, or it has a first word. -/
theorem allBlank_or_word (s : List Char) :
    allBlank s = true ∨ ∃ lead d rest, s = lead ++ d :: rest ∧ allBlank lead = true ∧
      isBlank d = false := by
  induction s with
  | nil => exact .inl rfl
  | cons c s ih =>
    cases hc : isBlank c with
    | false => exact .inr ⟨[], c, s, rfl, rfl, hc⟩
    | true =>
      rcases ih with hs | ⟨lead, d, rest, rfl, hlead, hd⟩
      · exact .inl (by rw [allBlank_cons, hc, hs, Bool.and_self])
      · exact .inr ⟨c :: lead, d, rest, rfl, by rw [allBlank_cons, hc, hlead, Bool.and_self], hd⟩

/-- The only cut in or beside a gap in which a line ends is that behind its first line break. -/
theorem filter_cutPlaces {text before run after : List Char} (h : Gap text before run after)
    (hline : run.any isLineBreak = true) :
    (cutPlaces 0 false false text).filter
        (fun p => before.length ≤ p && p ≤ before.length + run.length) =
      [before.length + firstLineLength run] := by
  obtain ⟨d, hlast, hd⟩ := h.wordBefore
  obtain ⟨e, hfirst, he⟩ := h.wordBehind
  obtain ⟨u, rfl⟩ := List.getLast?_eq_some_iff.mp hlast
  obtain ⟨v, rfl⟩ := List.head?_eq_some_iff.mp hfirst
  have htext : text = u ++ d :: (run ++ e :: v) := by rw [h.whole]; simp
  obtain ⟨places, hplaces, hcut⟩ := exists_cutPlaces_word 0 false false hd u (run ++ e :: v)
  rw [cutPlaces_gap _ h.blank he, hline, if_pos rfl] at hcut
  have hle := firstLineLength_le run
  have hlater : ∀ p ∈ cutPlaces (0 + u.length + 1 + run.length + 1) true false v,
      u.length + 1 + run.length < p := by
    intro p hp
    have hlt := lt_of_mem_cutPlaces _ _ _ hp
    omega
  have hempty : ∀ ps : List Nat, (∀ p ∈ ps, p ≤ u.length ∨ u.length + 1 + run.length < p) →
      ps.filter (fun p => u.length + 1 ≤ p && p ≤ u.length + 1 + run.length) = [] := by
    intro ps hps
    refine List.filter_eq_nil_iff.mpr fun p hp => ?_
    have hout := hps p hp
    simp only [Bool.and_eq_true, decide_eq_true_eq]
    omega
  rw [htext, hcut, List.length_append, List.length_singleton, List.filter_append, List.filter_append,
    hempty places fun p hp => .inl (by simpa using hplaces p hp),
    hempty _ fun p hp => .inr (hlater p hp), Nat.zero_add, List.nil_append, List.append_nil]
  have hfrom : u.length + 1 ≤ u.length + 1 + firstLineLength run := Nat.le_add_right _ _
  have hto : u.length + 1 + firstLineLength run ≤ u.length + 1 + run.length :=
    Nat.add_le_add_left hle _
  exact List.filter_cons_of_pos (by rw [decide_eq_true hfrom, decide_eq_true hto, Bool.and_self])

/-- Behind a word, all cuts are in gaps. -/
theorem exists_gap_of_mem_cutPlaces {text before s : List Char} (htext : text = before ++ s)
    (hbefore : ∃ c ∈ before.getLast?, isBlank c = false) {p : Nat}
    (hp : p ∈ cutPlaces before.length true false s) :
    ∃ before run after, Gap text before run after ∧ run.any isLineBreak = true ∧
      p = before.length + firstLineLength run := by
  induction h : s.length using Nat.strongRecOn generalizing before s with
  | _ n ih =>
    rcases allBlank_or_word s with hs | ⟨run, d, rest, rfl, hrun, hd⟩
    · rw [cutPlaces_of_allBlank _ _ _ hs] at hp
      exact absurd hp List.not_mem_nil
    · rw [cutPlaces_gap _ hrun hd] at hp
      rcases List.mem_append.mp hp with hp | hp
      · split at hp
        · next hline =>
          have hgap : Gap text before run (d :: rest) :=
            ⟨by rw [htext, List.append_assoc], hrun, hbefore, d, rfl, hd⟩
          exact ⟨before, run, d :: rest, hgap, hline, List.mem_singleton.mp hp⟩
        · exact absurd hp List.not_mem_nil
      · have hlength : (before ++ run ++ [d]).length = before.length + run.length + 1 := by
          rw [List.length_append, List.length_append, List.length_singleton]
        rw [← hlength] at hp
        refine ih rest.length ?_ (by rw [htext]; simp) ⟨d, by simp, hd⟩ hp rfl
        rw [← h, List.length_append, List.length_cons]
        omega

theorem mem_joinLines {ms : Nat} {n : Node} : ∀ {ls : List (List Char)}, n ∈ joinLines ms ls →
    (∃ s, n = .text s) ∨ n = pause ms
  | [], h => absurd h List.not_mem_nil
  | [l], h => .inl ⟨_, List.mem_singleton.mp h⟩
  | l :: l' :: ls, h => by
    rcases List.mem_cons.mp h with rfl | h
    · exact .inl ⟨_, rfl⟩
    · rcases List.mem_cons.mp h with rfl | h
      · exact .inr rfl
      · exact mem_joinLines h

/-- **Pauses stand between words.**  Every gap in which a line ends has one pause, directly behind its
first line break, and there are no others. -/
theorem pausePlaces_splitAtLineBreaks (text : String) (ms : Nat) :
    charsAll (splitAtLineBreaks text ms) = text.toList ∧
      (∀ n ∈ splitAtLineBreaks text ms, (∃ s, n = .text s) ∨ n = pause ms) ∧
      (∀ before run after, Gap text.toList before run after → run.any isLineBreak = true →
        (pausePlaces 0 (splitAtLineBreaks text ms)).filter
            (fun p => before.length ≤ p && p ≤ before.length + run.length) =
          [before.length + firstLineLength run]) ∧
      ∀ p ∈ pausePlaces 0 (splitAtLineBreaks text ms), ∃ before run after,
        Gap text.toList before run after ∧ run.any isLineBreak = true ∧
          p = before.length + firstLineLength run := by
  have hplaces : pausePlaces 0 (splitAtLineBreaks text ms) = cutPlaces 0 false false text.toList :=
    pausePlaces_cutLines ms 0 false false text.toList
  rw [hplaces]
  refine ⟨?_, fun n hn => mem_joinLines hn, fun before run after h => filter_cutPlaces h,
    fun p hp => ?_⟩
  · rw [(rewritten_splitAtLineBreaks text ms).charsAll_eq, charsAll_singleton, charsNode]
  · rcases allBlank_or_word text.toList with hs | ⟨lead, d, rest, htext, hlead, hd⟩
    · rw [cutPlaces_of_allBlank _ _ _ hs] at hp
      exact absurd hp List.not_mem_nil
    · have hlength : (lead ++ [d]).length = 0 + lead.length + 1 := by simp
      rw [htext, cutPlaces_uncut 0 false false hlead hd rest rfl, ← hlength] at hp
      exact exists_gap_of_mem_cutPlaces (by rw [htext]; simp) ⟨d, by simp, hd⟩ hp

/-- Of the three gaps of this text, the first is cut behind a line break of two characters, the second
has no line break, and the third is cut between two of them. -/
example : pausePlaces 0 (splitAtLineBreaks "\n a \r\n\n b\tc\u2003\r\rd\n" 300) = [6, 13] := by
  decide +kernel

end LecturePlan.Rewrite

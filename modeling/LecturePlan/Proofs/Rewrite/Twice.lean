import LecturePlan.Proofs.Rewrite.Passes
/-!
# Rewriting twice

A lecture that has been rewritten is left as it is when it is rewritten again.  Two things have to be
seen for that.

* The first walk leaves nothing behind that it would change: no lookup and no token, and no slide without
  a pause behind it.  Trees of this kind are `Finished`, and the walk does nothing to them
  (`rewriteAll_of_finished`).
* The second walk cuts a text so that no line of it would be cut again (`cutLines_of_mem`): a line starts
  in the run of white space that it was cut in, and so before its first word, and ends in the run of the
  next cut, behind its last.

They do not disturb each other: pauses at line breaks stand between texts, so what stands behind a slide
stays there.
-/

namespace LecturePlan.Rewrite

open LecturePlan.Markup LecturePlan.Text

/-! ## 1. Lines of lines -/

/-- Behind a cut a text is read as from its start: in both cases no word has been read since. -/
theorem cutLines_behind_cut (broken : Bool) (s : List Char) :
    cutLines true true s = cutLines false broken s := by
  induction s generalizing broken with
  | nil => rfl
  | cons c s ih =>
    cases hc : isBlank c with
    | true => simp [cutLines, hc, ih (broken || endsLine c s)]
    | false => simp [cutLines, hc]

/-- The first line begins where the text does. -/
theorem exists_cutLines (seen broken : Bool) (s : List Char) :
    ∃ l ls, cutLines seen broken s = l :: ls ∧ l.head? = s.head? := by
  cases s with
  | nil => exact ⟨[], [], rfl, rfl⟩
  | cons c s =>
    rw [cutLines]
    split
    · exact ⟨[c], _, rfl, rfl⟩
    · cases cutLines (seen || !isBlank c) (isBlank c && (broken || endsLine c s)) s with
      | nil => exact ⟨[c], [], rfl, rfl⟩
      | cons l ls => exact ⟨c :: l, ls, rfl, rfl⟩

/-- **A line is not cut again**, the first one as it stands behind what has been read. -/
theorem cutLines_of_mem (s : List Char) : ∀ (seen broken : Bool) (l : List Char)
    (ls : List (List Char)), cutLines seen broken s = l :: ls →
      cutLines seen broken l = [l] ∧ ∀ l' ∈ ls, cutLines false false l' = [l'] := by
  induction s with
  | nil =>
    intro seen broken l ls h
    cases h
    exact ⟨rfl, fun l' hl' => absurd hl' List.not_mem_nil⟩
  | cons c s ih =>
    intro seen broken l ls h
    obtain ⟨l₁, ls₁, hrest, hhead⟩ := exists_cutLines (seen || !isBlank c)
      (isBlank c && (broken || endsLine c s)) s
    obtain ⟨hfirst, hothers⟩ := ih _ _ _ _ hrest
    rw [cutLines, hrest] at h
    split at h
    · next hcut =>
      obtain ⟨rfl, rfl⟩ := List.cons.inj h
      simp only [Bool.and_eq_true, Bool.not_eq_true'] at hcut
      obtain ⟨⟨⟨rfl, rfl⟩, hends⟩, -⟩ := hcut
      have hblank : isBlank c = true := isBlank_of_isLineBreak (Bool.and_eq_true_iff.mp hends).1
      refine ⟨by simp [cutLines, consLine], List.forall_mem_cons.mpr ⟨?_, hothers⟩⟩
      rw [hblank, hends] at hfirst
      rw [← cutLines_behind_cut]
      exact hfirst
    · next hkeep =>
      obtain ⟨rfl, rfl⟩ := List.cons.inj h
      refine ⟨?_, hothers⟩
      -- a line ends behind `c` in the line as in the text, and there are no more words behind it
      have hends : endsLine c l₁ = endsLine c s := by rw [endsLine, endsLine, hhead]
      have hwords : l₁.any (fun c => !isBlank c) = true → s.any (fun c => !isBlank c) = true := by
        intro hany
        rw [← flatten_cutLines (seen || !isBlank c) (isBlank c && (broken || endsLine c s)) s, hrest,
          List.flatten_cons, List.any_append, hany, Bool.true_or]
      have hkeep' : ¬ (seen && !broken && endsLine c l₁ && l₁.any fun c => !isBlank c) = true := by
        rw [hends]
        simp only [Bool.and_eq_true] at hkeep ⊢
        exact fun hcut => hkeep ⟨hcut.1, hwords hcut.2⟩
      rw [cutLines, if_neg hkeep', hends, hfirst, consLine]

/-! ## 2. Finished trees -/

/-- Whether a pause comes first in siblings with more behind them, which start with one if `behind`. -/
def pausedBy (behind : Bool) : List Node → Bool
  | [] => behind
  | n :: _ => n.isNamed "break"

mutual

/-- Whether the walk has nothing to do at a node: outside declarations there is no lookup and no token,
and a pause is wanted behind no slide that has none. -/
def FinishedNode (ms : Nat) (paused : Bool) : Node → Prop
  | .text _ => True
  | .element tag children => isDeclaration tag.name = true ∨
      tag.name ≠ "lookup" ∧ tag.name ≠ "token" ∧
        (tag.name = "slide" → 0 < ms → paused = true) ∧ Finished ms false children

/-- **Siblings at which the walk has nothing to do.**  A pause stands behind them if `behind`. -/
def Finished (ms : Nat) (behind : Bool) : List Node → Prop
  | [] => True
  | n :: ns => FinishedNode ms (pausedBy behind ns) n ∧ Finished ms behind ns

end

section Finished

variable {ms : Nat}

theorem pausedBy_false (ns : List Node) : pausedBy false ns = startsWithBreak ns := by
  cases ns <;> rfl

theorem pausedBy_append (behind : Bool) (xs ys : List Node) :
    pausedBy behind (xs ++ ys) = pausedBy (pausedBy behind ys) xs := by
  cases xs <;> rfl

theorem finished_append (behind : Bool) (xs ys : List Node) :
    Finished ms behind (xs ++ ys) ↔
      Finished ms (pausedBy behind ys) xs ∧ Finished ms behind ys := by
  induction xs with
  | nil => simp [Finished]
  | cons x xs ih => rw [List.cons_append, Finished, Finished, ih, pausedBy_append, and_assoc]

theorem FinishedNode.paused {n : Node} (h : FinishedNode ms false n) (paused : Bool) :
    FinishedNode ms paused n := by
  cases n with
  | text s => trivial
  | element tag children =>
    rw [FinishedNode] at h ⊢
    refine h.imp_right fun ⟨hlookup, htoken, hslide, hchildren⟩ => ?_
    exact ⟨hlookup, htoken, fun hname hms => absurd (hslide hname hms) Bool.false_ne_true, hchildren⟩

/-- What is finished by itself is so in front of anything. -/
theorem Finished.behind {ns : List Node} (h : Finished ms false ns) (behind : Bool) :
    Finished ms behind ns := by
  induction ns with
  | nil => trivial
  | cons n ns ih =>
    rw [Finished] at h ⊢
    refine ⟨?_, ih h.2⟩
    cases ns with
    | nil => exact h.1.paused behind
    | cons m ns => exact h.1

/-- Text and words that are spoken are finished. -/
theorem finished_of_spelled (behind : Bool) {ns : List Node} (h : ∀ n ∈ ns, Spelled n) :
    Finished ms behind ns := by
  induction ns with
  | nil => trivial
  | cons n ns ih =>
    obtain ⟨hn, hns⟩ := List.forall_mem_cons.mp h
    refine ⟨?_, ih hns⟩
    rcases hn with ⟨s, rfl⟩ | ⟨l, alphabet, rfl⟩
    · trivial
    · rw [spokenForm, FinishedNode]
      refine .inr ⟨?_, ?_, ?_, trivial, trivial⟩ <;>
        obtain ⟨_, _ | _, _⟩ := l <;> cases alphabet <;> simp [spokenTag]

theorem finishedNode_pause (paused : Bool) (length : Nat) : FinishedNode ms paused (pause length) := by
  rw [pause, FinishedNode]
  exact .inr ⟨show "break" ≠ "lookup" by decide, show "break" ≠ "token" by decide,
    fun h => absurd h (show "break" ≠ "slide" by decide), trivial⟩

end Finished

/-! ## 3. The walk -/

/-- Where a pause is written first, the walk puts nothing in front of it. -/
theorem startsWithBreak_rewriteAll (r : Rules) (active : List Lexicon) (spoken : Bool)
    {ns : List Node} (h : startsWithBreak ns = true) :
    startsWithBreak (rewriteAll r active spoken ns).1 = true := by
  cases ns with
  | nil => cases h
  | cons n ns =>
    cases n with
    | text s => cases h
    | element tag children =>
      have hname : tag.name = "break" := by simpa [startsWithBreak, Node.isNamed] using h
      have hrename : (renameToken tag).name = "break" :=
        (renameToken_name_eq_iff tag (by decide) (by decide)).mpr hname
      have hd : ¬ isDeclaration tag.name = true := by rw [hname]; decide
      have hlookup : tag.name ≠ "lookup" := by rw [hname]; decide
      rw [rewriteAll, rewriteNode, if_neg hd, if_neg hlookup]
      simpa [startsWithBreak, Node.isNamed] using hrename

theorem renameToken_name_ne (tag : Tag) : (renameToken tag).name ≠ "token" := by
  unfold renameToken
  split
  · exact show "w" ≠ "token" by decide
  · assumption

mutual

theorem finished_rewriteNode (r : Rules) : ∀ (n : Node) (active : List Lexicon)
    (spoken paused : Bool), Finished r.afterSlide paused (rewriteNode r active spoken paused n).1
  | .text s, active, spoken, paused => by
    rw [rewriteNode]
    exact finished_of_spelled paused (spelled_unwrapNode r active spoken s).2
  | .element tag children, active, spoken, paused => by
    rw [rewriteNode]
    split
    · next hd => exact ⟨.inl hd, trivial⟩
    · next hd =>
      split
      · exact (finished_rewriteAll r children _ spoken).behind paused
      · next hlookup =>
        have hlookup' : (renameToken tag).name ≠ "lookup" :=
          fun h => hlookup ((renameToken_name_eq_iff tag (by decide) (by decide)).mp h)
        have hkept : ∀ b, ((renameToken tag).name = "slide" → 0 < r.afterSlide → b = true) →
            FinishedNode r.afterSlide b (.element (renameToken tag)
              (rewriteAll r active (spoken || isSpokenForm (renameToken tag).name) children).1) := by
          intro b hb
          rw [FinishedNode]
          exact .inr ⟨hlookup', renameToken_name_ne tag, hb, finished_rewriteAll r children _ _⟩
        dsimp only
        split
        · exact ⟨hkept true fun _ _ => rfl, finishedNode_pause paused _, trivial⟩
        · next hno =>
          refine ⟨hkept paused fun hname hms => ?_, trivial⟩
          rw [← Bool.not_eq_false]
          exact fun hpaused => hno ⟨hname, hms, hpaused⟩

/-- **The walk leaves a finished tree.** -/
theorem finished_rewriteAll (r : Rules) : ∀ (ns : List Node) (active : List Lexicon)
    (spoken : Bool), Finished r.afterSlide false (rewriteAll r active spoken ns).1
  | [], active, spoken => by
    rw [rewriteAll]
    trivial
  | n :: ns, active, spoken => by
    rw [rewriteAll]
    dsimp only
    rw [finished_append, pausedBy_false]
    refine ⟨?_, finished_rewriteAll r ns active spoken⟩
    have hn := finished_rewriteNode r n active spoken (startsWithBreak ns)
    -- a pause behind `n` is still there after the walk, and one that is not there is not needed
    cases hpaused : startsWithBreak ns with
    | true =>
      rw [startsWithBreak_rewriteAll r active spoken hpaused, ← hpaused]
      exact hn
    | false =>
      rw [hpaused] at hn
      exact hn.behind _

end

mutual

theorem rewriteNode_of_finished (r : Rules) : ∀ {n : Node} (spoken : Bool) {paused : Bool},
    FinishedNode r.afterSlide paused n → rewriteNode r [] spoken paused n = ([n], [])
  | .text s, spoken, paused, _ => by
    rw [rewriteNode, List.isEmpty_nil, Bool.or_true, if_pos rfl]
  | .element tag children, spoken, paused, h => by
    rw [FinishedNode] at h
    rw [rewriteNode]
    split
    · rfl
    · next hd =>
      obtain ⟨hlookup, htoken, hslide, hchildren⟩ := h.resolve_left hd
      rw [if_neg hlookup, renameToken, if_neg htoken]
      dsimp only
      rw [rewriteAll_of_finished r _ hchildren, if_neg]
      rintro ⟨hname, hms, hno⟩
      rw [hslide hname hms] at hno
      cases hno

/-- **The walk does nothing to a finished tree.** -/
theorem rewriteAll_of_finished (r : Rules) : ∀ {ns : List Node} (spoken : Bool),
    Finished r.afterSlide false ns → rewriteAll r [] spoken ns = (ns, [])
  | [], spoken, _ => by rw [rewriteAll]
  | n :: ns, spoken, h => by
    rw [Finished, pausedBy_false] at h
    rw [rewriteAll, rewriteNode_of_finished r spoken h.1, rewriteAll_of_finished r spoken h.2]
    rfl

end

/-! ## 4. Pauses at line breaks -/

theorem pauseNode_pause (ms length : Nat) : pauseNode ms (pause length) = [pause length] := rfl

/-- Lines are texts with pauses between them, and start with a text. -/
theorem joinLines_cons (ms : Nat) (l : List Char) (ls : List (List Char)) :
    ∃ rest, joinLines ms (l :: ls) = .text (String.ofList l) :: rest := by
  cases ls with
  | nil => exact ⟨[], rfl⟩
  | cons l' ls => exact ⟨_, rfl⟩

/-- Lines that are not cut again stay as they are. -/
theorem pauseAll_joinLines (ms : Nat) {ls : List (List Char)}
    (h : ∀ l ∈ ls, cutLines false false l = [l]) : pauseAll ms (joinLines ms ls) = joinLines ms ls := by
  have hline : ∀ l ∈ ls, pauseNode ms (.text (String.ofList l)) = [.text (String.ofList l)] := by
    intro l hl
    rw [pauseNode, splitAtLineBreaks, String.toList_ofList, h l hl, joinLines]
  clear h
  induction ls with
  | nil => rfl
  | cons l ls ih =>
    obtain ⟨hl, hls⟩ := List.forall_mem_cons.mp hline
    cases ls with
    | nil => rw [joinLines, pauseAll, hl, pauseAll, List.append_nil]
    | cons l' ls =>
      rw [joinLines, pauseAll, hl, pauseAll, pauseNode_pause, ih hls]
      rfl

theorem pauseAll_splitAtLineBreaks (ms : Nat) (s : String) :
    pauseAll ms (splitAtLineBreaks s ms) = splitAtLineBreaks s ms := by
  refine pauseAll_joinLines ms ?_
  obtain ⟨l, ls, hcut, -⟩ := exists_cutLines false false s.toList
  rw [hcut]
  exact List.forall_mem_cons.mpr (cutLines_of_mem s.toList false false l ls hcut)

mutual

theorem pauseAll_pauseNode (ms : Nat) : ∀ n : Node, pauseAll ms (pauseNode ms n) = pauseNode ms n
  | .text s => by
    rw [pauseNode, pauseAll_splitAtLineBreaks]
  | .element tag children => by
    by_cases h : (isSpokenForm tag.name || isDeclaration tag.name) = true
    · have hkept : pauseNode ms (.element tag children) = [.element tag children] := by
        rw [pauseNode, if_pos h]
      rw [hkept, pauseAll, hkept, pauseAll, List.append_nil]
    · rw [pauseNode, if_neg h, pauseAll, pauseNode, if_neg h, pauseAll_pauseAll ms children, pauseAll,
        List.append_nil]

/-- **Pauses at line breaks are put in once.** -/
theorem pauseAll_pauseAll (ms : Nat) : ∀ ns : List Node,
    pauseAll ms (pauseAll ms ns) = pauseAll ms ns
  | [] => rfl
  | n :: ns => by
    rw [pauseAll, pauseAll_append, pauseAll_pauseNode ms n, pauseAll_pauseAll ms ns]

end

theorem pauseElement_pauseElement (ms : Nat) (e : Element) :
    pauseElement ms (pauseElement ms e) = pauseElement ms e := by
  by_cases h : (isSpokenForm e.tag.name || isDeclaration e.tag.name) = true
  · have hkept : pauseElement ms e = e := by rw [pauseElement, if_pos h]
    rw [hkept, hkept]
  · have hcut : pauseElement ms e = { e with children := pauseAll ms e.children } := by
      rw [pauseElement, if_neg h]
    rw [hcut, pauseElement, if_neg h, pauseAll_pauseAll]

/-- Pauses at line breaks change nothing about what comes first. -/
theorem pausedBy_pauseAll (length : Nat) (behind : Bool) (ns : List Node) :
    pausedBy behind (pauseAll length ns) = pausedBy behind ns := by
  cases ns with
  | nil => rfl
  | cons n ns =>
    rw [pauseAll, pausedBy_append]
    cases n with
    | text s =>
      obtain ⟨l, ls, hcut, -⟩ := exists_cutLines false false s.toList
      obtain ⟨rest, hrest⟩ := joinLines_cons length l ls
      rw [pauseNode, splitAtLineBreaks, hcut, hrest]
      rfl
    | element tag children =>
      rw [pauseNode]
      split <;> rfl

theorem finished_joinLines (ms length : Nat) (behind : Bool) (ls : List (List Char)) :
    Finished ms behind (joinLines length ls) := by
  induction ls with
  | nil => trivial
  | cons l ls ih =>
    cases ls with
    | nil => exact ⟨trivial, trivial⟩
    | cons l' ls => exact ⟨trivial, finishedNode_pause _ length, ih⟩

mutual

theorem finished_pauseNode {ms : Nat} (length : Nat) : ∀ {n : Node} {paused : Bool},
    FinishedNode ms paused n → Finished ms paused (pauseNode length n)
  | .text s, paused, _ => by
    rw [pauseNode]
    exact finished_joinLines ms length paused _
  | .element tag children, paused, h => by
    rw [pauseNode]
    split
    · exact ⟨h, trivial⟩
    · refine ⟨?_, trivial⟩
      rw [FinishedNode] at h ⊢
      refine h.imp_right fun ⟨hlookup, htoken, hslide, hchildren⟩ => ?_
      exact ⟨hlookup, htoken, hslide, finished_pauseAll length hchildren⟩

/-- Pauses at line breaks leave a finished tree finished. -/
theorem finished_pauseAll {ms : Nat} (length : Nat) : ∀ {ns : List Node} {behind : Bool},
    Finished ms behind ns → Finished ms behind (pauseAll length ns)
  | [], _, _ => trivial
  | n :: ns, behind, h => by
    rw [Finished] at h
    rw [pauseAll, finished_append, pausedBy_pauseAll]
    exact ⟨finished_pauseNode length h.1, finished_pauseAll length h.2⟩

end

/-! ## 5. The lecture -/

theorem finished_pauseElement {ms : Nat} (length : Nat) {e : Element}
    (h : Finished ms false e.children) : Finished ms false (pauseElement length e).children := by
  unfold pauseElement
  split
  · exact h
  · exact finished_pauseAll length h

theorem finished_rewriteLecture (lecture : Element) (d : Declarations) (c : Config) :
    Finished (Pauses.resolve d.settings c).1.afterSlide false
      (rewriteLecture lecture d c).1.children := by
  have hwalk := finished_rewriteAll ⟨d.lexicons, (Pauses.resolve d.settings c).1.afterSlide⟩
    lecture.children [] false
  unfold rewriteLecture
  dsimp only
  split
  · exact finished_pauseElement _ hwalk
  · exact hwalk

/-- A finished lecture is only cut at line breaks. -/
theorem rewriteLecture_of_finished {lecture : Element} {d : Declarations} {c : Config}
    (h : Finished (Pauses.resolve d.settings c).1.afterSlide false lecture.children) :
    rewriteLecture lecture d c =
      (if 0 < (Pauses.resolve d.settings c).1.afterParagraph then
        pauseElement (Pauses.resolve d.settings c).1.afterParagraph lecture else lecture,
        (Pauses.resolve d.settings c).2) := by
  have hwalk := rewriteAll_of_finished
    ⟨d.lexicons, (Pauses.resolve d.settings c).1.afterSlide⟩ false h
  unfold rewriteLecture
  dsimp only
  rw [hwalk, List.append_nil]

/-- **A lecture that has been rewritten stays as it is when it is rewritten again.**  The walk has nothing
left to do in it, and nothing to report. -/
theorem rewriteLecture_rewriteLecture (lecture : Element) (d : Declarations) (c : Config) :
    (rewriteLecture (rewriteLecture lecture d c).1 d c).1 = (rewriteLecture lecture d c).1 ∧
      (rewriteLecture (rewriteLecture lecture d c).1 d c).2 = (Pauses.resolve d.settings c).2 ∧
      Finished (Pauses.resolve d.settings c).1.afterSlide false
        (rewriteLecture lecture d c).1.children := by
  have hfinished := finished_rewriteLecture lecture d c
  rw [rewriteLecture_of_finished hfinished]
  refine ⟨?_, rfl, hfinished⟩
  dsimp only
  split
  · next hpause =>
    rw [rewriteLecture, if_pos hpause, pauseElement_pauseElement]
  · rfl

end LecturePlan.Rewrite

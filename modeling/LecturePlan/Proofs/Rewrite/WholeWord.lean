import LecturePlan.Proofs.Rewrite.KeepsWording
import Mathlib.Data.List.Basic
/-!
# The words that a lexeme speaks

A lexeme speaks the words of a text that are spelled like its grapheme.  A word is a whole one if it
has an edge on both sides (`WholeWord`).  Occurrences are looked for from left to right, and one that is
no word is passed over with all its characters, so that the search goes on behind it.

* What is spoken is right: it is a whole word of the text, and the pieces put together are the text
  (`cutsAtWords_replaceGrapheme`).
* What is left is not always: a word that begins inside an occurrence that is no word is passed over
  with it.  Such a word is `Shadowed`, and no other word is missed.

So whether words can be missed is a matter of how the grapheme overlaps itself: it must begin again
inside itself, behind an edge (`OverlapsBehindEdge`).  `replaceGrapheme_words` says that for all other
graphemes, such as those of one word, every word is found in every text, and that for these there is a
text in which one is missed.
-/

namespace LecturePlan.Rewrite

open LecturePlan.Markup LecturePlan.Text

/-! ## 1. Whole words -/

/-- Whether what stands between two parts of a text is a whole word of it. -/
def WholeWord (before after : List Char) : Prop :=
  isEdge before.getLast? = true ∧ isEdge after.head? = true

section Shadow

variable (g front s back : List Char)

/-- Whether an occurrence of `g` in a part `s` of a text, behind `before`, begins inside another one
that is no word.  The text is `front`, `s` and `back`. -/
def Shadowed (before : List Char) : Prop :=
  ∃ before' after', s = before' ++ g ++ after' ∧ ¬ WholeWord (front ++ before') (after' ++ back) ∧
    before'.length < before.length ∧ before.length < before'.length + g.length

/-- Whether all whole words in a part of a text that are spelled like `g` are shadowed. -/
def AllShadowed : Prop :=
  ∀ before after, s = before ++ g ++ after → WholeWord (front ++ before) (after ++ back) →
    Shadowed g front s back before

end Shadow

section Step

variable {g front t back : List Char}

theorem allShadowed_nil (hg : g ≠ []) : AllShadowed g front [] back := by
  intro before after h
  simp [hg] at h

theorem Shadowed.append {s before : List Char} (h : Shadowed g (front ++ s) t back before) :
    Shadowed g front (s ++ t) back (s ++ before) := by
  obtain ⟨before', after', rfl, hno, hlt, hin⟩ := h
  refine ⟨s ++ before', after', by simp, by simpa using hno, ?_, ?_⟩ <;>
    simp only [List.length_append] <;> omega

/-- A character at which no occurrence begins hides nothing. -/
theorem AllShadowed.cons (c : Char) (hno : ¬ g <+: c :: (t ++ back))
    (h : AllShadowed g (front ++ [c]) t back) : AllShadowed g front ([c] ++ t) back := by
  intro before after heq hword
  cases before with
  | nil =>
    refine absurd ⟨after ++ back, ?_⟩ hno
    rw [← List.append_assoc, ← List.nil_append g, ← heq]
    rfl
  | cons d before =>
    obtain ⟨rfl, rfl⟩ := List.cons.inj heq
    exact Shadowed.append (s := [c]) (h before after rfl (by simpa using hword))

/-- An occurrence that is no word hides the words that begin inside it, and no others. -/
theorem AllShadowed.passOver (hno : ¬ WholeWord front (t ++ back))
    (h : AllShadowed g (front ++ g) t back) : AllShadowed g front (g ++ t) back := by
  intro before after heq hword
  rcases Nat.lt_or_ge before.length g.length with hlt | hge
  -- the word begins inside the occurrence, but not where it begins: there it would be no word
  · refine ⟨[], t, rfl, by simpa using hno, ?_, by simpa using hlt⟩
    refine List.length_pos_iff.mpr ?_
    rintro rfl
    rw [List.nil_append, List.append_cancel_left_eq] at heq
    rw [heq] at hno
    exact hno (by simpa using hword)
  · rw [List.append_assoc] at heq
    obtain ⟨rest, rfl⟩ := List.prefix_of_prefix_length_le ⟨t, rfl⟩ ⟨g ++ after, heq.symm⟩ hge
    rw [List.append_assoc, List.append_cancel_left_eq, ← List.append_assoc] at heq
    exact (h rest after heq (by simpa using hword)).append

end Step

/-! ## 2. How a text is cut -/

/-- What has been cut at the words spelled like `g`, read from left to right behind `front`: words are
whole, plain pieces have only words in them that are shadowed, and no two of them stand together. -/
inductive CutAt (g : List Char) : List Char → List Piece → Prop
  | nil (front : List Char) : CutAt g front []
  | word {front : List Char} {ps : List Piece} :
      WholeWord front (ps.flatMap (Piece.chars g)) → CutAt g (front ++ g) ps →
        CutAt g front (.word :: ps)
  | plain {front s : List Char} {ps : List Piece} :
      s ≠ [] → (∀ t qs, ps ≠ .plain t :: qs) →
        AllShadowed g front s (ps.flatMap (Piece.chars g)) → CutAt g (front ++ s) ps →
          CutAt g front (.plain s :: ps)

section Cut

variable {g front : List Char}

/-- Plain characters join the piece behind them. -/
theorem CutAt.consPlain (hg : g ≠ []) {s : List Char} {ps : List Piece} (hs : s ≠ [])
    (h : CutAt g (front ++ s) ps)
    (hstep : ∀ t back, t ++ back = ps.flatMap (Piece.chars g) →
      AllShadowed g (front ++ s) t back → AllShadowed g front (s ++ t) back) :
    CutAt g front (consPlain s ps) := by
  have hfront : (∀ t qs, ps ≠ .plain t :: qs) → CutAt g front (.plain s :: ps) := by
    intro hps
    have hnew := hstep [] _ rfl (allShadowed_nil hg)
    rw [List.append_nil] at hnew
    exact .plain hs hps hnew h
  cases h with
  | nil => exact hfront fun _ _ => nofun
  | word hword hrest => exact hfront fun _ _ => nofun
  | @plain _ t qs ht hqs hall hrest =>
    refine .plain (fun hnil => hs (List.append_eq_nil_iff.mp hnil).1) hqs (hstep t _ rfl hall) ?_
    rwa [← List.append_assoc]

/-- **A text is cut at whole words.** -/
theorem cutAt_cutWords (hg : g ≠ []) (before : Option Char) (s : List Char) :
    ∀ front : List Char, before = front.getLast? → CutAt g front (cutWords g before s) := by
  fun_induction cutWords g before s with
  | case1 => exact fun front _ => .nil front
  | case2 before c t hpre rest hedge ih =>
    rintro front rfl
    refine .word ?_ (ih _ (List.getLast?_append_of_ne_nil _ hg).symm)
    rw [flatten_cutWords hg]
    exact Bool.and_eq_true_iff.mp hedge
  | case3 before c t hpre rest hedge ih =>
    rintro front rfl
    refine (ih _ (List.getLast?_append_of_ne_nil _ hg).symm).consPlain hg hg ?_
    intro t' back heq hall
    refine hall.passOver ?_
    rw [heq, flatten_cutWords hg]
    exact fun hword => hedge (Bool.and_eq_true_iff.mpr hword)
  | case4 before c t hpre ih =>
    rintro front rfl
    refine (ih (front ++ [c]) (by simp)).consPlain hg (List.cons_ne_nil _ _) ?_
    intro t' back heq hall
    refine hall.cons c ?_
    rw [heq, flatten_cutWords hg]
    exact fun hpre' => hpre (List.isPrefixOf_iff_prefix.mpr hpre')

/-- Each piece is judged with all text in front of it and behind it. -/
theorem CutAt.behind {ps qs : List Piece} (h : CutAt g front (ps ++ qs)) :
    CutAt g (front ++ ps.flatMap (Piece.chars g)) qs := by
  induction ps generalizing front with
  | nil => simpa using h
  | cons p ps ih =>
    cases h with
    | word _ hrest => simpa [Piece.chars] using ih hrest
    | plain _ _ _ hrest => simpa [Piece.chars] using ih hrest

/-- Pieces without a word are one plain piece, if there are any. -/
theorem CutAt.eq_plain_of_not_contains {ps : List Piece} (h : CutAt g front ps)
    (hps : ps.contains .word = false) (hne : ps ≠ []) :
    ps = [.plain (ps.flatMap (Piece.chars g))] := by
  cases h with
  | nil => exact absurd rfl hne
  | word _ _ => simp at hps
  | @plain _ s ps hs hqs _ _ =>
    cases ps with
    | nil => simp [Piece.chars]
    | cons p ps =>
      cases p with
      | plain t => exact absurd rfl (hqs t ps)
      | word => simp at hps

end Cut

/-! ## 3. The pieces as nodes -/

section Nodes

variable (text : String) {l : Lexeme} (alphabet : Option String)

theorem charsNode_toNode (p : Piece) :
    charsNode (p.toNode l alphabet) = p.chars l.grapheme.toList := by
  cases p with
  | plain s => rw [Piece.toNode, charsNode, String.toList_ofList, Piece.chars]
  | word => rw [Piece.toNode, spokenForm, charsNode, charsAll_singleton, charsNode, Piece.chars]

theorem charsAll_map_toNode (ps : List Piece) :
    charsAll (ps.map (Piece.toNode l alphabet)) = ps.flatMap (Piece.chars l.grapheme.toList) := by
  induction ps with
  | nil => rfl
  | cons p ps ih => rw [List.map_cons, charsAll, charsNode_toNode, ih, List.flatMap_cons]

theorem charsAll_replaceGrapheme (hl : l.grapheme ≠ "") :
    charsAll (replaceGrapheme text l alphabet) = text.toList := by
  rw [(rewritten_replaceGrapheme text hl alphabet).charsAll_eq, charsAll_singleton, charsNode]

theorem replaceGrapheme_empty : replaceGrapheme "" l alphabet = [.text ""] := by
  simp [replaceGrapheme, cutWords]

/-- A text without words stays one piece, so the pieces are those of the cut. -/
theorem replaceGrapheme_eq_map (hl : l.grapheme ≠ "") (ht : text ≠ "") :
    replaceGrapheme text l alphabet =
      (cutWords l.grapheme.toList none text.toList).map (Piece.toNode l alphabet) := by
  have hg : l.grapheme.toList ≠ [] := fun h => hl (String.toList_eq_nil_iff.mp h)
  rw [replaceGrapheme]
  split
  · rfl
  · next hword =>
    have hchars := flatten_cutWords hg none text.toList
    have hne : cutWords l.grapheme.toList none text.toList ≠ [] := by
      intro hnil
      rw [hnil] at hchars
      exact ht (String.toList_eq_nil_iff.mp hchars.symm)
    rw [(cutAt_cutWords hg none text.toList [] rfl).eq_plain_of_not_contains
      (Bool.eq_false_iff.mpr hword) hne, hchars]
    simp [Piece.toNode]

end Nodes

/-- What the replacement of a grapheme makes of a text: its pieces, put together, are the text, so that
they stand for parts of it that do not overlap; each is the spoken form of the grapheme, in the place of
a whole word, or plain text in which all such words are shadowed. -/
structure CutsAtWords (text : String) (l : Lexeme) (alphabet : Option String) : Prop where
  chars : charsAll (replaceGrapheme text l alphabet) = text.toList
  pieces : ∀ ms n ns, replaceGrapheme text l alphabet = ms ++ n :: ns →
    (n = spokenForm l alphabet ∧ WholeWord (charsAll ms) (charsAll ns)) ∨
      ∃ s, n = .text s ∧ AllShadowed l.grapheme.toList (charsAll ms) s.toList (charsAll ns)

theorem cutsAtWords_replaceGrapheme (text : String) {l : Lexeme} (hl : l.grapheme ≠ "")
    (alphabet : Option String) : CutsAtWords text l alphabet where
  chars := charsAll_replaceGrapheme text alphabet hl
  pieces ms n ns h := by
    have hg : l.grapheme.toList ≠ [] := fun h => hl (String.toList_eq_nil_iff.mp h)
    by_cases ht : text = ""
    · subst ht
      have hnode : ms = [] ∧ n = .text "" ∧ ns = [] := by
        rw [replaceGrapheme_empty, eq_comm, List.append_eq_singleton_iff] at h
        simpa using h
      obtain ⟨rfl, rfl, rfl⟩ := hnode
      exact .inr ⟨"", rfl, allShadowed_nil hg⟩
    · rw [replaceGrapheme_eq_map text alphabet hl ht] at h
      obtain ⟨ps, rest, hcut, rfl, hrest⟩ := List.map_eq_append_iff.mp h
      obtain ⟨p, qs, rfl, rfl, rfl⟩ := List.map_eq_cons_iff.mp hrest
      have hp := cutAt_cutWords hg none text.toList [] rfl
      rw [hcut] at hp
      rw [charsAll_map_toNode, charsAll_map_toNode]
      cases hp.behind with
      | word hword _ => exact .inl ⟨rfl, hword⟩
      | @plain _ s _ _ _ hall _ =>
        refine .inr ⟨String.ofList s, rfl, ?_⟩
        rwa [String.toList_ofList]

/-! ## 4. Words that are missed -/

/-- Whether no plain piece of a text has a whole word in it that is spelled like the grapheme. -/
def FindsAllWords (text : String) (l : Lexeme) (alphabet : Option String) : Prop :=
  ∀ ms s ns before after, replaceGrapheme text l alphabet = ms ++ .text s :: ns →
    s.toList = before ++ l.grapheme.toList ++ after →
      ¬ WholeWord (charsAll ms ++ before) (after ++ charsAll ns)

/-- Whether a grapheme begins again inside itself, behind an edge: `u` and `v` are not empty, and two
occurrences share `v`. -/
def OverlapsBehindEdge (g : List Char) : Prop :=
  ∃ u v w, g = u ++ v ∧ g = v ++ w ∧ u ≠ [] ∧ v ≠ [] ∧ isEdge u.getLast? = true

/-- A whole word is shadowed by an occurrence that it overlaps behind an edge. -/
theorem overlapsBehindEdge_of_shadowed {g front s back before after : List Char}
    (heq : s = before ++ g ++ after) (hword : WholeWord (front ++ before) (after ++ back))
    (h : Shadowed g front s back before) : OverlapsBehindEdge g := by
  obtain ⟨before', after', heq', -, hlt, hin⟩ := h
  rw [heq, List.append_assoc, List.append_assoc] at heq'
  obtain ⟨u, rfl⟩ := List.prefix_of_prefix_length_le ⟨_, heq'.symm⟩ ⟨_, rfl⟩ (Nat.le_of_lt hlt)
  rw [List.append_assoc, List.append_cancel_left_eq] at heq'
  rw [List.length_append] at hlt hin
  have hu : u ≠ [] := by
    rintro rfl
    simp at hlt
  obtain ⟨v, rfl⟩ := List.prefix_of_prefix_length_le ⟨_, heq'⟩ ⟨_, rfl⟩ (by omega)
  have hrest : u ++ v ++ after = v ++ after' := by simpa using heq'
  obtain ⟨w, hw⟩ := List.prefix_of_prefix_length_le ⟨_, hrest.symm⟩ ⟨_, rfl⟩ (by simp)
  refine ⟨u, v, w, rfl, hw.symm, hu, ?_, ?_⟩
  · rintro rfl
    simp at hin
  · rw [← List.append_assoc, WholeWord, List.getLast?_append_of_ne_nil _ hu] at hword
    exact hword.1

theorem contains_word_consPlain (s : List Char) (ps : List Piece) :
    (consPlain s ps).contains .word = ps.contains .word := by
  cases ps with
  | nil => rfl
  | cons p ps => cases p <;> rfl

section Unfound

variable {g : List Char}

/-- Where no occurrence begins, a text has the words that it has behind its first character. -/
theorem contains_word_cutWords_cons {c : Char} {s : List Char} (h : ¬ g <+: c :: s)
    (before : Option Char) :
    (cutWords g before (c :: s)).contains .word = (cutWords g (some c) s).contains .word := by
  have hpre : ¬ g.isPrefixOf (c :: s) = true := fun hpre => h (List.isPrefixOf_iff_prefix.mp hpre)
  rw [cutWords, if_neg hpre, contains_word_consPlain]

/-- Where an occurrence has no edge in front of it, a text has the words that it has behind the
occurrence. -/
theorem contains_word_cutWords_append (hg : g ≠ []) {before : Option Char}
    (h : isEdge before = false) (rest : List Char) :
    (cutWords g before (g ++ rest)).contains .word =
      (cutWords g g.getLast? rest).contains .word := by
  cases g with
  | nil => exact absurd rfl hg
  | cons d g =>
    have hpre : (d :: g).isPrefixOf (d :: (g ++ rest)) = true :=
      List.isPrefixOf_iff_prefix.mpr ⟨rest, rfl⟩
    have hrest : (g ++ rest).drop ((d :: g).length - 1) = rest := by simp
    rw [List.cons_append, cutWords, if_pos hpre]
    simp only [hrest, h, Bool.false_and, Bool.false_eq_true, if_false]
    exact contains_word_consPlain _ _

/-- A short text has no words. -/
theorem contains_word_cutWords_of_lt {s : List Char} (h : s.length < g.length)
    (before : Option Char) : (cutWords g before s).contains .word = false := by
  have hg : g ≠ [] := List.ne_nil_of_length_pos (Nat.zero_lt_of_lt h)
  refine Bool.eq_false_iff.mpr fun hword => ?_
  have hsub : g.Sublist s := by
    conv_rhs => rw [← flatten_cutWords hg before s, List.flatMap_def]
    exact List.sublist_flatten_of_mem (List.mem_map.mpr ⟨.word, by simpa using hword, rfl⟩)
  exact Nat.not_lt.mpr hsub.length_le h

end Unfound

/-- A letter that a word may not stand next to, and that is not a given one. -/
theorem exists_letter (d : Char) : ∃ c : Char, isEdge (some c) = false ∧ c ≠ d := by
  by_cases h : d = 'a'
  · exact ⟨'b', by decide, by rw [h]; decide⟩
  · exact ⟨'a', by decide, Ne.symm h⟩

/-- If a grapheme overlaps itself behind an edge, then a word is missed in the text of its two
occurrences with a letter in front of them. -/
theorem exists_missed {l : Lexeme} (h : OverlapsBehindEdge l.grapheme.toList)
    (alphabet : Option String) : ∃ text, ¬ FindsAllWords text l alphabet := by
  obtain ⟨u, v, w, hu, hv, hune, hvne, hedge⟩ := h
  obtain ⟨d, u', rfl⟩ := List.exists_cons_of_ne_nil hune
  obtain ⟨c, hc, hcd⟩ := exists_letter d
  have hg : l.grapheme.toList ≠ [] := by simp [hu]
  have htwo : d :: u' ++ l.grapheme.toList = l.grapheme.toList ++ w := by
    conv_lhs => rw [hv, ← List.append_assoc, ← hu]
  have hlt : w.length < l.grapheme.toList.length := by
    have hpos := List.length_pos_iff.mpr hvne
    rw [hv, List.length_append]
    omega
  -- the first occurrence has the letter in front of it, and behind it too little is left for a second
  have hnone : (cutWords l.grapheme.toList none (c :: (d :: u' ++ l.grapheme.toList))).contains
      .word = false := by
    have hpre : ¬ l.grapheme.toList <+: c :: (d :: u' ++ l.grapheme.toList) := by
      conv => rw [hu]
      exact fun hpre => hcd (List.cons_prefix_cons.mp hpre).1.symm
    rw [contains_word_cutWords_cons hpre, htwo, contains_word_cutWords_append hg hc]
    exact contains_word_cutWords_of_lt hlt _
  have hkept : replaceGrapheme (String.ofList (c :: (d :: u' ++ l.grapheme.toList))) l alphabet =
      [.text (String.ofList (c :: (d :: u' ++ l.grapheme.toList)))] := by
    rw [replaceGrapheme, String.toList_ofList, hnone]
    rfl
  refine ⟨_, fun hall => hall [] _ [] (c :: d :: u') [] hkept ?_ ⟨?_, rfl⟩⟩
  · rw [String.toList_ofList, List.append_nil]
    rfl
  · rw [← List.singleton_append, ← List.append_assoc, List.getLast?_append_of_ne_nil _ hune]
    exact hedge

/-- **The words of a grapheme.**  In every text, what is spoken is a whole word and what is left has
only shadowed words in it.  All words are found in all texts iff the grapheme does not overlap itself
behind an edge. -/
theorem replaceGrapheme_words (l : Lexeme) (alphabet : Option String) (hl : l.grapheme ≠ "") :
    (∀ text, CutsAtWords text l alphabet) ∧
      ((∀ text, FindsAllWords text l alphabet) ↔ ¬ OverlapsBehindEdge l.grapheme.toList) := by
  refine ⟨fun text => cutsAtWords_replaceGrapheme text hl alphabet, fun hall hover => ?_, ?_⟩
  · obtain ⟨text, hmissed⟩ := exists_missed hover alphabet
    exact hmissed (hall text)
  · intro hover text ms s ns before after h heq hword
    rcases (cutsAtWords_replaceGrapheme text hl alphabet).pieces ms (.text s) ns h with
      ⟨hspoken, -⟩ | ⟨t, htext, hall⟩
    · cases hspoken
    · cases htext
      exact hover (overlapsBehindEdge_of_shadowed heq hword (hall before after heq hword))

/-- A grapheme of two equal words overlaps itself behind the space between them. -/
theorem replaceGrapheme_words_of_two_equal :
    "ha ha" ≠ "" ∧ (∀ text, CutsAtWords text ⟨"ha ha", .alias, "laughter"⟩ none) ∧
      ¬ ∀ text, FindsAllWords text ⟨"ha ha", .alias, "laughter"⟩ none := by
  obtain ⟨hcuts, hfinds⟩ := replaceGrapheme_words ⟨"ha ha", .alias, "laughter"⟩ none (by decide)
  refine ⟨by decide, hcuts, fun hall => hfinds.mp hall ?_⟩
  exact ⟨"ha ".toList, "ha".toList, " ha".toList, by decide, by decide, by decide, by decide,
    by decide⟩

/-- The second word is missed behind an occurrence that is the end of another word. -/
theorem not_findsAllWords_of_laughter :
    ¬ FindsAllWords "aha ha ha" ⟨"ha ha", .alias, "laughter"⟩ none := by
  intro hall
  have hkept : replaceGrapheme "aha ha ha" ⟨"ha ha", .alias, "laughter"⟩ none =
      [.text "aha ha ha"] := by
    have hedge : isEdge (some 'a') = false := by decide
    simp [replaceGrapheme, cutWords, consPlain, hedge]
  exact hall [] _ [] "aha ".toList [] hkept (by decide) ⟨by decide, by decide⟩

end LecturePlan.Rewrite

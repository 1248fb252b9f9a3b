import LecturePlan.Proofs.Rewrite.Wording
/-!
# Rewriting keeps the wording

The two walks over a lecture replace words by pronunciations, take lookups away, turn tokens into
words and put pauses in.  This module goes through them from the inside out, from the pieces of one
text to whole trees, and finds that all they do is among the rules of `Rewritten`.  So a lecture is
read as it was written, whatever lexicons are declared and however long the pauses are.
-/

namespace LecturePlan.Rewrite

open LecturePlan.Markup

/-! ## 1. Text that is cut -/

/-- Text may be cut into any number of pieces. -/
theorem rewritten_texts : ∀ ls : List (List Char),
    Rewritten (ls.map fun l => .text (String.ofList l)) [.text (String.ofList ls.flatten)]
  | [] => .empty
  | l :: ls => by
    have hcut := Rewritten.cut (String.ofList l) (String.ofList ls.flatten)
    rw [← String.ofList_append] at hcut
    exact ((Rewritten.refl [.text (String.ofList l)]).append (rewritten_texts ls)).trans hcut

/-! ## 2. Pronunciations -/

theorem isSpokenForm_spokenTag (l : Lexeme) (alphabet : Option String) :
    isSpokenForm (spokenTag l alphabet).name = true := by
  unfold spokenTag
  split
  · rfl
  · split <;> rfl

/-- A word that is spoken in another way is still written. -/
theorem rewritten_piece (l : Lexeme) (alphabet : Option String) (p : Piece) :
    Rewritten [p.toNode l alphabet] [.text (String.ofList (p.chars l.grapheme.toList))] := by
  cases p with
  | plain s => exact .refl _
  | word =>
    rw [Piece.chars, String.ofList_toList]
    exact .spell l.grapheme (isSpokenForm_spokenTag l alphabet)

theorem rewritten_pieces (l : Lexeme) (alphabet : Option String) (ps : List Piece) :
    Rewritten (ps.map (Piece.toNode l alphabet))
      ((ps.map (Piece.chars l.grapheme.toList)).map fun s => .text (String.ofList s)) := by
  induction ps with
  | nil => exact .refl []
  | cons p ps ih => exact (rewritten_piece l alphabet p).append ih

theorem rewritten_replaceGrapheme (text : String) {l : Lexeme} (hl : l.grapheme ≠ "")
    (alphabet : Option String) : Rewritten (replaceGrapheme text l alphabet) [.text text] := by
  unfold replaceGrapheme
  dsimp only
  split
  · have hg : l.grapheme.toList ≠ [] := fun h => hl (String.toList_eq_nil_iff.mp h)
    have htexts := rewritten_texts
      ((cutWords l.grapheme.toList none text.toList).map (Piece.chars l.grapheme.toList))
    rw [← List.flatMap_def, flatten_cutWords hg, String.ofList_toList] at htexts
    exact (rewritten_pieces l alphabet _).trans htexts
  · exact .refl _

theorem rewritten_applyEntry {e : Entry} (he : e.1.grapheme ≠ "") (ns : List Node) :
    Rewritten (applyEntry e ns) ns := by
  induction ns with
  | nil => exact .refl []
  | cons n ns ih =>
    have hfirst : Rewritten (applyEntry e [n]) [n] := by
      cases n with
      | text s =>
        rw [applyEntry, List.flatMap_singleton]
        exact rewritten_replaceGrapheme s he e.2
      | element tag children => exact .refl _
    have hcons : applyEntry e (n :: ns) = applyEntry e [n] ++ applyEntry e ns := by
      rw [applyEntry, applyEntry, applyEntry, List.flatMap_cons, List.flatMap_singleton]
    rw [hcons]
    exact hfirst.append ih

/-- No entry that is applied is empty: there would be no end of the words it stands for. -/
theorem grapheme_ne_empty_of_mem_firstEntries {e : Entry} :
    ∀ {es : List Entry} {seen : List String}, e ∈ firstEntries seen es → e.1.grapheme ≠ ""
  | [], seen, h => absurd h List.not_mem_nil
  | e' :: es, seen, h => by
    rw [firstEntries] at h
    split at h
    · exact grapheme_ne_empty_of_mem_firstEntries h
    · next hkeep =>
      rcases List.mem_cons.mp h with rfl | h
      · exact fun hempty => hkeep (.inl hempty)
      · exact grapheme_ne_empty_of_mem_firstEntries h

theorem rewritten_applyLexicons (text : String) (active : List Lexicon) :
    Rewritten (applyLexicons text active) [.text text] := by
  have hfold : ∀ (es : List Entry) (ns : List Node), (∀ e ∈ es, e.1.grapheme ≠ "") →
      Rewritten (es.foldl (fun pieces e => applyEntry e pieces) ns) ns := by
    intro es
    induction es with
    | nil => exact fun ns _ => .refl ns
    | cons e es ih =>
      intro ns hes
      have hrest := ih (applyEntry e ns) fun e' he' => hes e' (List.mem_cons_of_mem e he')
      exact hrest.trans (rewritten_applyEntry (hes e List.mem_cons_self) ns)
  exact hfold _ _ fun e he => grapheme_ne_empty_of_mem_firstEntries he

/-! ## 3. The walk over lookups, tokens and slides -/

theorem rewritten_renameToken {tag : Tag} (hd : isDeclaration tag.name = false) {ms ns : List Node}
    (h : Rewritten ms ns) : Rewritten [.element (renameToken tag) ms] [.element tag ns] := by
  unfold renameToken
  split
  · next htoken => exact (Rewritten.token ms htoken).trans (.element hd h)
  · exact .element hd h

mutual

/-- The walk rewrites a node, whatever lexicons are in force. -/
theorem rewritten_rewriteNode (r : Rules) : ∀ (n : Node) (active : List Lexicon)
    (spoken paused : Bool), Rewritten (rewriteNode r active spoken paused n).1 [n]
  | .text s, active, spoken, paused => by
    rw [rewriteNode]
    dsimp only
    split
    · exact .refl _
    · exact rewritten_applyLexicons s active
  | .element tag children, active, spoken, paused => by
    rw [rewriteNode]
    split
    · exact .refl _
    · next hd =>
      split
      · next hlookup =>
        exact (rewritten_rewriteAll r children _ spoken).trans (.lookup children hlookup)
      · dsimp only
        have hkept := rewritten_renameToken (Bool.eq_false_iff.mpr hd)
          (rewritten_rewriteAll r children active (spoken || isSpokenForm (renameToken tag).name))
        split
        · exact hkept.append (.pause r.afterSlide)
        · exact hkept

/-- So it does siblings. -/
theorem rewritten_rewriteAll (r : Rules) : ∀ (ns : List Node) (active : List Lexicon)
    (spoken : Bool), Rewritten (rewriteAll r active spoken ns).1 ns
  | [], active, spoken => by
    rw [rewriteAll]
    exact .refl []
  | n :: ns, active, spoken => by
    rw [rewriteAll]
    exact (rewritten_rewriteNode r n active spoken _).append (rewritten_rewriteAll r ns active spoken)

end

/-! ## 4. The walk over line breaks -/

/-- Between two lines there may be a pause. -/
theorem rewritten_joinLines (ms : Nat) : ∀ ls : List (List Char),
    Rewritten (joinLines ms ls) (ls.map fun l => .text (String.ofList l))
  | [] => .refl []
  | [l] => .refl _
  | l :: l' :: ls => by
    have hrest := (Rewritten.pause ms).append (rewritten_joinLines ms (l' :: ls))
    exact (Rewritten.refl [.text (String.ofList l)]).append hrest

theorem rewritten_splitAtLineBreaks (text : String) (ms : Nat) :
    Rewritten (splitAtLineBreaks text ms) [.text text] := by
  have htexts := rewritten_texts (cutLines false false text.toList)
  rw [flatten_cutLines, String.ofList_toList] at htexts
  exact (rewritten_joinLines ms _).trans htexts

mutual

theorem rewritten_pauseNode (ms : Nat) : ∀ n : Node, Rewritten (pauseNode ms n) [n]
  | .text s => by
    rw [pauseNode]
    exact rewritten_splitAtLineBreaks s ms
  | .element tag children => by
    rw [pauseNode]
    split
    · exact .refl _
    · next h =>
      rw [Bool.not_eq_true, Bool.or_eq_false_iff] at h
      exact .element h.2 (rewritten_pauseAll ms children)

theorem rewritten_pauseAll (ms : Nat) : ∀ ns : List Node, Rewritten (pauseAll ms ns) ns
  | [] => by
    rw [pauseAll]
    exact .refl []
  | n :: ns => by
    rw [pauseAll]
    exact (rewritten_pauseNode ms n).append (rewritten_pauseAll ms ns)

end

theorem rewritten_pauseElement (ms : Nat) (e : Element) :
    (pauseElement ms e).tag = e.tag ∧ Rewritten (pauseElement ms e).children e.children := by
  unfold pauseElement
  split
  · exact ⟨rfl, .refl _⟩
  · exact ⟨rfl, rewritten_pauseAll ms e.children⟩

/-! ## 5. The lecture -/

/-- All that is done to a lecture is rewriting what stands in it. -/
theorem rewritten_rewriteLecture (lecture : Element) (d : Declarations) (c : Config) :
    (rewriteLecture lecture d c).1.tag = lecture.tag ∧
      Rewritten (rewriteLecture lecture d c).1.children lecture.children := by
  unfold rewriteLecture
  dsimp only
  have hwalk := rewritten_rewriteAll ⟨d.lexicons, (Pauses.resolve d.settings c).1.afterSlide⟩
    lecture.children [] false
  split
  · obtain ⟨htag, hpause⟩ := rewritten_pauseElement (Pauses.resolve d.settings c).1.afterParagraph
      { lecture with
        children := (rewriteAll ⟨d.lexicons, (Pauses.resolve d.settings c).1.afterSlide⟩ [] false
          lecture.children).1 }
    exact ⟨htag, hpause.trans hwalk⟩
  · exact ⟨rfl, hwalk⟩

/-- **A lecture is rewritten word for word**: its wording is the same before and after, so is its root
tag, and so is every character of text. -/
theorem wording_rewriteLecture (lecture : Element) (d : Declarations) (c : Config) :
    wording (rewriteLecture lecture d c).1.children = wording lecture.children ∧
      (rewriteLecture lecture d c).1.tag = lecture.tag ∧
      charsAll (rewriteLecture lecture d c).1.children = charsAll lecture.children := by
  obtain ⟨htag, h⟩ := rewritten_rewriteLecture lecture d c
  exact ⟨h.wording_eq, htag, h.charsAll_eq⟩

end LecturePlan.Rewrite

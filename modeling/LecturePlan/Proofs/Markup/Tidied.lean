import LecturePlan.Markup.Tidy
import LecturePlan.Proofs.Markup.ReadBack
/-!
# Tidying what was written

Tidying goes through the characters of a section and knows nothing of its tree.  This module proves
that it does no harm to it: the tidied text of a tree is the text of a tree with the same elements and
the same keys, in which nothing but white space of leaves and values is gone (`tidy_write`).  So a
tidied section is read as well as the section itself.

* In a tag, white space stands only between the name and the keys and inside of values.  No `<` follows
  it before the tag ends, so only the indentation of values is dropped (`tidy_bracketed`).
* Text is followed by a tag.  White space in front of the tag becomes one space if the tag is inline,
  and then indentation is dropped (`tidy_escapeText`).  Since white space may begin in one leaf and end
  in the next, leaves that stand side by side are put together first (`tidiedRun`).
-/

namespace LecturePlan.Markup

open LecturePlan.Text

/-! ## 1. White space before tags -/

/-- A character that is not white space is copied. -/
theorem joinInlineTags_cons {c : Char} (h : isBlank c = false) (s : List Char) :
    joinInlineTags (c :: s) = c :: joinInlineTags s := by
  rw [joinInlineTags.eq_def]
  dsimp only
  rw [if_neg (by rw [h]; exact Bool.false_ne_true)]

/-- A run of white space is joined if an inline tag follows it, else it is copied. -/
theorem joinInlineTags_blank {c : Char} (h : isBlank c = true) (s : List Char) :
    joinInlineTags (c :: s) =
      match cutAfterBlank (s.dropWhile isBlank) with
      | some (tag, rest) => ' ' :: tag ++ joinInlineTags rest
      | none => c :: s.takeWhile isBlank ++ joinInlineTags (s.dropWhile isBlank) := by
  rw [joinInlineTags.eq_def]
  dsimp only
  rw [if_pos h]
  split <;> simp only [*]

/-- White space that no inline tag follows is copied with what follows it. -/
theorem joinInlineTags_of_none {s : List Char} (h : cutAfterBlank (s.dropWhile isBlank) = none)
    (c : Char) : joinInlineTags (c :: s) = c :: joinInlineTags s := by
  cases hc : isBlank c with
  | false => exact joinInlineTags_cons hc s
  | true =>
    rw [joinInlineTags_blank hc, h]
    dsimp only
    cases s with
    | nil => rfl
    | cons d s =>
      cases hd : isBlank d with
      | false => simp [hd]
      | true =>
        rw [List.dropWhile_cons_of_pos hd] at h ⊢
        rw [List.takeWhile_cons_of_pos hd, joinInlineTags_blank hd, h, List.cons_append]

/-- White space in front of an inline tag becomes a space, and the tag is copied. -/
theorem joinInlineTags_of_some {c : Char} (hc : isBlank c = true) {s tag rest : List Char}
    (h : cutAfterBlank (s.dropWhile isBlank) = some (tag, rest)) :
    joinInlineTags (c :: s) = ' ' :: tag ++ joinInlineTags rest := by
  rw [joinInlineTags_blank hc, h]

theorem cutAfterBlank_cons_of_ne {c : Char} (h : c ≠ '<') (s : List Char) :
    cutAfterBlank (c :: s) = none := by
  unfold cutAfterBlank
  split
  · next heq => exact absurd (List.cons.inj heq).1 h
  · rfl

/-- No tag follows white space in front of other characters that do not open one. -/
theorem cutAfterBlank_dropWhile_append {u : List Char} (hopen : '<' ∉ u) (h : allBlank u = false)
    (s : List Char) : cutAfterBlank ((u ++ s).dropWhile isBlank) = none := by
  induction u with
  | nil => cases h
  | cons c u ih =>
    cases hc : isBlank c with
    | true =>
      have hu : allBlank u = false := by simpa [allBlank, hc] using h
      rw [List.cons_append, List.dropWhile_cons_of_pos hc]
      exact ih (fun hmem => hopen (List.mem_cons_of_mem _ hmem)) hu
    | false =>
      have hne : c ≠ '<' := by
        rintro rfl
        exact hopen List.mem_cons_self
      rw [List.cons_append, List.dropWhile_cons_of_neg (by simp [hc]), cutAfterBlank_cons_of_ne hne]

/-- What stands in brackets is copied: no tag opens there. -/
theorem joinInlineTags_inside {u : List Char} (h : '<' ∉ u) (s : List Char) :
    joinInlineTags (u ++ '>' :: s) = u ++ '>' :: joinInlineTags s := by
  induction u with
  | nil => exact joinInlineTags_cons (by decide) s
  | cons c u ih =>
    have hu : '<' ∉ u := fun hmem => h (List.mem_cons_of_mem _ hmem)
    have hnone : cutAfterBlank ((u ++ '>' :: s).dropWhile isBlank) = none := by
      have hclose := cutAfterBlank_dropWhile_append (u := u ++ ['>']) (by simp [hu])
        (by simp [allBlank, isBlank]) s
      rwa [List.append_assoc, List.singleton_append] at hclose
    rw [List.cons_append, joinInlineTags_of_none hnone, ih hu, List.cons_append]

/-- Whether a tag is inline, by what stands between its brackets. -/
def isInline (content : List Char) : Bool :=
  inlineNames.contains (splitBefore endsTagName content).1

theorem cutAfterBlank_open {s name rest : List Char} {c : Char}
    (h : splitBefore endsTagName s = (name, c :: rest)) :
    cutAfterBlank ('<' :: s) =
      if inlineNames.contains name then some ('<' :: (name ++ [c]), rest) else none := by
  rw [cutAfterBlank, cutInlineTag, h]
  dsimp only
  split <;> rfl

/-- White space in front of a tag is joined iff the tag is inline.  The characters of the tag that are
copied with it would be copied in any case. -/
theorem cutAfterBlank_bracketed {u : List Char} (h : '<' ∉ u) (s : List Char) :
    (isInline u = false ∧ cutAfterBlank ('<' :: (u ++ '>' :: s)) = none) ∨
      (isInline u = true ∧ ∃ tag rest, cutAfterBlank ('<' :: (u ++ '>' :: s)) = some (tag, rest) ∧
        tag ++ joinInlineTags rest = '<' :: (u ++ '>' :: joinInlineTags s)) := by
  obtain ⟨c, rest, hrest, hcopy⟩ : ∃ c rest,
      splitBefore endsTagName (u ++ '>' :: s) = ((splitBefore endsTagName u).1, c :: rest) ∧
        (splitBefore endsTagName u).1 ++ c :: joinInlineTags rest =
          u ++ '>' :: joinInlineTags s := by
    have happ := splitBefore_append endsTagName u
    rw [splitBefore_append_cons endsTagName u (d := '>') (by decide) s]
    cases hrest : (splitBefore endsTagName u).2 with
    | nil =>
      rw [hrest, List.append_nil] at happ
      exact ⟨'>', s, rfl, by rw [happ]⟩
    | cons c rest =>
      rw [hrest] at happ
      have hopen : '<' ∉ rest := fun hmem =>
        h (happ ▸ List.mem_append_right _ (List.mem_cons_of_mem _ hmem))
      refine ⟨c, rest ++ '>' :: s, rfl, ?_⟩
      rw [joinInlineTags_inside hopen, ← List.cons_append, ← List.append_assoc, happ]
  rw [cutAfterBlank_open hrest, isInline]
  cases hinline : inlineNames.contains (splitBefore endsTagName u).1 with
  | false => exact .inl ⟨rfl, rfl⟩
  | true =>
    refine .inr ⟨rfl, _, _, rfl, ?_⟩
    rw [← hcopy]
    simp

/-! ## 2. Text in front of a tag -/

/-- Text in front of a tag: if the tag is inline, the white space between them becomes one space. -/
def joinEnd (inline : Bool) : List Char → List Char
  | [] => []
  | c :: s => if inline && allBlank (c :: s) then [' '] else c :: joinEnd inline s

theorem joinEnd_copy {inline : Bool} {c : Char} {s : List Char}
    (h : (inline && allBlank (c :: s)) = false) :
    joinEnd inline (c :: s) = c :: joinEnd inline s :=
  if_neg (by rw [h]; exact Bool.false_ne_true)

theorem joinEnd_append (inline : Bool) {u : List Char} (h : u.any isBlank = false) (s : List Char) :
    joinEnd inline (u ++ s) = u ++ joinEnd inline s := by
  induction u with
  | nil => rfl
  | cons c u ih =>
    obtain ⟨hc, hu⟩ := Bool.or_eq_false_iff.mp h
    have hkept : (inline && allBlank (c :: (u ++ s))) = false := by
      rw [allBlank_cons, hc, Bool.false_and, Bool.and_false]
    rw [List.cons_append, joinEnd_copy hkept, ih hu, List.cons_append]

theorem allBlank_joinEnd (inline : Bool) (s : List Char) :
    allBlank (joinEnd inline s) = allBlank s := by
  induction s with
  | nil => rfl
  | cons c s ih =>
    rw [joinEnd]
    split
    · next h =>
      rw [(Bool.and_eq_true_iff.mp h).2]
      rfl
    · rw [allBlank_cons, allBlank_cons, ih]

/-- **White space between text and a tag.** -/
theorem joinInlineTags_open {s u : List Char} (hs : '<' ∉ s) (hu : '<' ∉ u) (rest : List Char) :
    joinInlineTags (s ++ '<' :: (u ++ '>' :: rest)) =
      joinEnd (isInline u) s ++ '<' :: (u ++ '>' :: joinInlineTags rest) := by
  induction s with
  | nil => exact (joinInlineTags_cons (by decide) _).trans (by rw [joinInlineTags_inside hu]; rfl)
  | cons c s ih =>
    have hmem : '<' ∉ s := fun h => hs (List.mem_cons_of_mem c h)
    have hcopy : (isInline u && allBlank (c :: s)) = false →
        joinInlineTags (c :: (s ++ '<' :: (u ++ '>' :: rest))) =
          c :: joinInlineTags (s ++ '<' :: (u ++ '>' :: rest)) →
        joinInlineTags (c :: s ++ '<' :: (u ++ '>' :: rest)) =
          joinEnd (isInline u) (c :: s) ++ '<' :: (u ++ '>' :: joinInlineTags rest) := by
      intro hkept hcopied
      rw [List.cons_append, hcopied, ih hmem, joinEnd_copy hkept, List.cons_append]
    cases hc : isBlank c with
    | false =>
      exact hcopy (by rw [allBlank_cons, hc, Bool.false_and, Bool.and_false])
        (joinInlineTags_cons hc _)
    | true =>
      cases hblank : allBlank s with
      | false =>
        -- other text comes before the tag
        exact hcopy (by rw [allBlank_cons, hblank, Bool.and_false, Bool.and_false])
          (joinInlineTags_of_none (cutAfterBlank_dropWhile_append hmem hblank _) c)
      | true =>
        -- the tag comes next
        have hnext : (s ++ '<' :: (u ++ '>' :: rest)).dropWhile isBlank =
            '<' :: (u ++ '>' :: rest) := by
          rw [List.dropWhile_append_of_pos (List.all_eq_true.mp hblank),
            List.dropWhile_cons_of_neg (by decide)]
        have hcut := cutAfterBlank_bracketed hu rest
        rw [← hnext] at hcut
        rcases hcut with ⟨hinline, hnone⟩ | ⟨hinline, tag, more, hsome, hmore⟩
        · exact hcopy (by rw [hinline, Bool.false_and]) (joinInlineTags_of_none hnone c)
        · have hjoined : joinEnd (isInline u) (c :: s) = [' '] := by
            rw [joinEnd, hinline, allBlank_cons, hc, hblank]
            rfl
          rw [List.cons_append, joinInlineTags_of_some hc hsome, List.cons_append, hmore, hjoined,
            List.singleton_append]

/-! ### Written text -/

/-- White space is written as it is, and nothing else is written with white space. -/
theorem escapeTextChar_blank (c : Char) :
    (isBlank c = true ∧ escapeTextChar c = [c]) ∨
      (isBlank c = false ∧ (escapeTextChar c).any isBlank = false) := by
  unfold escapeTextChar
  split
  · next h => exact .inr ⟨h ▸ rfl, rfl⟩
  · split
    · next h => exact .inr ⟨h ▸ rfl, rfl⟩
    · split
      · next h => exact .inr ⟨h ▸ rfl, rfl⟩
      · cases hc : isBlank c with
        | true => exact .inl ⟨rfl, rfl⟩
        | false => exact .inr ⟨rfl, by rw [List.any_cons, hc, List.any_nil, Bool.or_self]⟩

theorem escapeText_cons (c : Char) (s : List Char) :
    escapeText (c :: s) = escapeTextChar c ++ escapeText s := List.flatMap_cons

/-- What is written is blank iff the text is. -/
theorem allBlank_escapeText (s : List Char) : allBlank (escapeText s) = allBlank s := by
  induction s with
  | nil => rfl
  | cons c s ih =>
    rw [escapeText_cons, allBlank_append, allBlank_cons, ih]
    rcases escapeTextChar_blank c with ⟨hc, hplain⟩ | ⟨hc, hall⟩
    · rw [hplain, hc, allBlank_cons, hc]
      rfl
    · obtain ⟨d, t, hd⟩ : ∃ d t, escapeTextChar c = d :: t := by
        unfold escapeTextChar
        split_ifs <;> exact ⟨_, _, rfl⟩
      rw [hd] at hall
      rw [hd, allBlank_cons, (Bool.or_eq_false_iff.mp hall).1, hc, Bool.false_and]

theorem ne_bracket_of_all {w : List Char} (hall : w.all (fun d => d != '<' && d != '>') = true)
    {d : Char} (h : d ∈ w) : d ≠ '<' ∧ d ≠ '>' := by
  simpa using List.all_eq_true.mp hall d h

/-- Written text holds no brackets of its own. -/
theorem ne_bracket_of_mem_escapeText {s : List Char} {d : Char} (h : d ∈ escapeText s) :
    d ≠ '<' ∧ d ≠ '>' := by
  rw [escapeText, List.mem_flatMap] at h
  obtain ⟨c, -, hd⟩ := h
  unfold escapeTextChar at hd
  split_ifs at hd with hamp hlt hgt
  · exact ne_bracket_of_all (by decide) hd
  · exact ne_bracket_of_all (by decide) hd
  · exact ne_bracket_of_all (by decide) hd
  · rw [List.mem_singleton.mp hd]
    exact ⟨hlt, hgt⟩

/-- No tag opens in written text. -/
theorem not_mem_escapeText (s : List Char) : '<' ∉ escapeText s :=
  fun h => (ne_bracket_of_mem_escapeText h).1 rfl

theorem joinEnd_escapeText (inline : Bool) (s : List Char) :
    joinEnd inline (escapeText s) = escapeText (joinEnd inline s) := by
  induction s with
  | nil => rfl
  | cons c s ih =>
    rcases escapeTextChar_blank c with ⟨-, hplain⟩ | ⟨hc, hall⟩
    · rw [escapeText_cons, hplain, List.singleton_append, joinEnd, joinEnd, allBlank_cons,
        allBlank_escapeText, allBlank_cons]
      split
      · rfl
      · rw [ih, escapeText_cons, hplain, List.singleton_append]
    · have hkept : (inline && allBlank (c :: s)) = false := by
        rw [allBlank_cons, hc, Bool.false_and, Bool.and_false]
      rw [escapeText_cons, joinEnd_append inline hall, ih, joinEnd_copy hkept, escapeText_cons]

/-- **White space between written text and a tag.** -/
theorem joinInlineTags_escapeText {u : List Char} (h : '<' ∉ u) (s rest : List Char) :
    joinInlineTags (escapeText s ++ '<' :: (u ++ '>' :: rest)) =
      escapeText (joinEnd (isInline u) s) ++ '<' :: (u ++ '>' :: joinInlineTags rest) := by
  rw [joinInlineTags_open (not_mem_escapeText s) h, joinEnd_escapeText]

/-! ## 3. Indentation -/

/-- Whether a character neither ends nor indents a line. -/
def staysInLine (c : Char) : Bool := !isLineBreak c && !isIndent c

theorem dropIndent_cons {c : Char} (h : staysInLine c = true) (atBreak : Bool) (s : List Char) :
    dropIndent atBreak (c :: s) = c :: dropIndent false s := by
  obtain ⟨hbreak, hindent⟩ : isLineBreak c = false ∧ isIndent c = false := by
    simpa [staysInLine] using h
  rw [dropIndent, if_neg (by simp [hbreak]), if_neg (by simp [hindent])]

theorem allBlank_dropIndent (atBreak : Bool) (s : List Char) :
    allBlank (dropIndent atBreak s) = allBlank s := by
  induction s generalizing atBreak with
  | nil => rfl
  | cons c s ih =>
    rw [dropIndent]
    split
    · rw [allBlank_cons, allBlank_cons, ih]
    · split
      · next hindent =>
        rw [allBlank_cons, ih, isBlank_of_isIndent (Bool.and_eq_true_iff.mp hindent).2, Bool.true_and]
      · rw [allBlank_cons, allBlank_cons, ih]

/-- Other characters are copied, and after them no line has just ended. -/
theorem dropIndent_append {u : List Char} (h : ∀ c ∈ u, staysInLine c = true) (hu : u ≠ [])
    (atBreak : Bool) (s : List Char) : dropIndent atBreak (u ++ s) = u ++ dropIndent false s := by
  induction u generalizing atBreak with
  | nil => exact absurd rfl hu
  | cons c u ih =>
    obtain ⟨hc, hall⟩ := List.forall_mem_cons.mp h
    rw [List.cons_append, dropIndent_cons hc]
    cases u with
    | nil => rfl
    | cons d u =>
      rw [ih hall (List.cons_ne_nil d u)]
      rfl

/-- How characters are escaped does not matter if those of white space are not. -/
theorem dropIndent_flatMap {escape : Char → List Char}
    (hescape : ∀ c, escape c = [c] ∨
      staysInLine c = true ∧ escape c ≠ [] ∧ (escape c).all staysInLine = true)
    {d : Char} (hd : staysInLine d = true) (atBreak : Bool) (s rest : List Char) :
    dropIndent atBreak (s.flatMap escape ++ d :: rest) =
      (dropIndent atBreak s).flatMap escape ++ d :: dropIndent false rest := by
  induction s generalizing atBreak with
  | nil => exact dropIndent_cons hd atBreak rest
  | cons c s ih =>
    rw [List.flatMap_cons, List.append_assoc]
    rcases hescape c with hc | ⟨hc, hne, hall⟩
    · rw [hc, List.singleton_append, dropIndent, dropIndent]
      split_ifs <;> simp [ih, hc]
    · rw [dropIndent_append (List.all_eq_true.mp hall) hne, ih, dropIndent_cons hc, List.flatMap_cons, List.append_assoc]

theorem dropIndent_escapeText {d : Char} (hd : staysInLine d = true) (atBreak : Bool)
    (s rest : List Char) :
    dropIndent atBreak (escapeText s ++ d :: rest) =
      escapeText (dropIndent atBreak s) ++ d :: dropIndent false rest := by
  refine dropIndent_flatMap (fun c => ?_) hd atBreak s rest
  unfold escapeTextChar
  split_ifs with hamp hlt hgt
  · exact .inr ⟨hamp ▸ rfl, List.cons_ne_nil _ _, rfl⟩
  · exact .inr ⟨hlt ▸ rfl, List.cons_ne_nil _ _, rfl⟩
  · exact .inr ⟨hgt ▸ rfl, List.cons_ne_nil _ _, rfl⟩
  · exact .inl rfl

theorem dropIndent_escapeValue {d : Char} (hd : staysInLine d = true) (atBreak : Bool)
    (s rest : List Char) :
    dropIndent atBreak (escapeValue s ++ d :: rest) =
      escapeValue (dropIndent atBreak s) ++ d :: dropIndent false rest := by
  refine dropIndent_flatMap (fun c => ?_) hd atBreak s rest
  unfold escapeValueChar escapeTextChar
  split_ifs with hquote hsingle hamp hlt hgt
  · exact .inr ⟨hquote ▸ rfl, List.cons_ne_nil _ _, rfl⟩
  · exact .inr ⟨hsingle ▸ rfl, List.cons_ne_nil _ _, rfl⟩
  · exact .inr ⟨hamp ▸ rfl, List.cons_ne_nil _ _, rfl⟩
  · exact .inr ⟨hlt ▸ rfl, List.cons_ne_nil _ _, rfl⟩
  · exact .inr ⟨hgt ▸ rfl, List.cons_ne_nil _ _, rfl⟩
  · exact .inl rfl

/-! ### In tags -/

/-- A tag without the indentation of its values. -/
def Tag.tidied (t : Tag) : Tag :=
  { t with
    attributes := t.attributes.map fun a => (a.1, String.ofList (dropIndent false a.2.toList)) }

theorem staysInLine_of_isName {s : List Char} (h : IsName s) : ∀ c ∈ s, staysInLine c = true := by
  intro c hc
  simp [staysInLine, isLineBreak, isIndent, h.ne hc (d := '\r') rfl, h.ne hc (d := '\n') rfl,
    h.ne hc (d := ' ') rfl, h.ne hc (d := '\t') rfl]

/-- The name stays, and so do the keys and what stands around the values. -/
theorem dropIndent_content {t : Tag} (h : t.Legible) (s : List Char) :
    dropIndent false (t.content ++ s) = t.tidied.content ++ dropIndent false s := by
  have hattributes : ∀ as : List Attribute, (∀ a ∈ as, IsName a.1.toList) →
      dropIndent false (as.flatMap writeAttribute ++ s) =
        (as.map fun a => (a.1, String.ofList (dropIndent false a.2.toList))).flatMap
          writeAttribute ++ dropIndent false s := by
    intro as has
    induction as with
    | nil => rfl
    | cons a as ih =>
      obtain ⟨ha, has⟩ := List.forall_mem_cons.mp has
      have hspace : ∀ s, dropIndent false (' ' :: s) = ' ' :: dropIndent false s := fun s => rfl
      have hname : ∀ s, dropIndent false (a.1.toList ++ s) = a.1.toList ++ dropIndent false s :=
        dropIndent_append (staysInLine_of_isName ha) ha.nonempty false
      have hsign : ∀ s, dropIndent false ('=' :: '"' :: s) = '=' :: '"' :: dropIndent false s :=
        fun s => rfl
      have hvalue := dropIndent_escapeValue (d := '"') rfl false a.2.toList
      simp only [List.flatMap_cons, List.map_cons, writeAttribute, List.cons_append,
        List.append_assoc, List.nil_append, hspace, hname, hsign, hvalue, ih has,
        String.toList_ofList]
  rw [Tag.content, List.append_assoc,
    dropIndent_append (staysInLine_of_isName h.name) h.name.nonempty, hattributes _ h.keys,
    Tag.content, List.append_assoc]
  rfl

theorem readable_tidied {t : Tag} (h : t.Readable) : t.tidied.Readable where
  legible := ⟨h.legible.name, fun a ha => by
    obtain ⟨b, hb, rfl⟩ := List.mem_map.mp ha
    exact h.legible.keys b hb⟩
  distinct := by
    have hkeys : t.tidied.attributes.map Prod.fst = t.attributes.map Prod.fst := by
      simp [Tag.tidied]
    rw [Tag.Distinct, hkeys]
    exact h.distinct

/-! ## 4. Written tags -/

/-- Nor does a written value. -/
theorem ne_bracket_of_mem_escapeValue {s : List Char} {d : Char} (h : d ∈ escapeValue s) :
    d ≠ '<' ∧ d ≠ '>' := by
  rw [escapeValue, List.mem_flatMap] at h
  obtain ⟨c, -, hd⟩ := h
  unfold escapeValueChar at hd
  split_ifs at hd with hquote hsingle
  · exact ne_bracket_of_all (by decide) hd
  · exact ne_bracket_of_all (by decide) hd
  · exact ne_bracket_of_mem_escapeText (s := [c]) (by rwa [escapeText, List.flatMap_singleton])

theorem not_mem_escapeValue (s : List Char) : '<' ∉ escapeValue s :=
  fun h => (ne_bracket_of_mem_escapeValue h).1 rfl

/-- No tag opens in a tag. -/
theorem not_mem_content {t : Tag} (h : t.Legible) : '<' ∉ t.content := by
  intro hmem
  rcases List.mem_append.mp hmem with hmem | hmem
  · exact h.name.ne hmem rfl rfl
  · obtain ⟨a, ha, hmem⟩ := List.mem_flatMap.mp hmem
    have hkey : '<' ∉ a.1.toList := fun hmem => (h.keys a ha).ne hmem rfl rfl
    simp [writeAttribute, hkey, not_mem_escapeValue] at hmem

theorem isInline_append_cons {d : Char} (hd : endsTagName d = true) (s rest : List Char) :
    isInline (s ++ d :: rest) = isInline s := by
  rw [isInline, splitBefore_append_cons _ _ hd, isInline]

/-- Whether a tag is inline is told by its name. -/
theorem isInline_content (t : Tag) : isInline t.content = isInline t.name.toList := by
  rw [Tag.content]
  cases t.attributes with
  | nil => rw [List.flatMap_nil, List.append_nil]
  | cons a as => exact isInline_append_cons (d := ' ') (by decide) _ _

/-- Text is tidied as the tag behind it asks for. -/
theorem tidy_escapeText {u : List Char} (h : '<' ∉ u) (s rest : List Char) :
    tidy (escapeText s ++ '<' :: (u ++ '>' :: rest)) =
      escapeText (dropIndent false (joinEnd (isInline u) s)) ++
        tidy ('<' :: (u ++ '>' :: rest)) := by
  have htag : joinInlineTags ('<' :: (u ++ '>' :: rest)) =
      '<' :: (u ++ '>' :: joinInlineTags rest) := by
    rw [joinInlineTags_cons (by decide), joinInlineTags_inside h]
  rw [tidy, joinInlineTags_escapeText h, dropIndent_escapeText (by decide), tidy, htag,
    dropIndent_cons (c := '<') (by decide)]

/-- A tag is tidied by itself. -/
theorem tidy_bracketed {u v : List Char} (h : '<' ∉ u)
    (hu : ∀ s, dropIndent false (u ++ s) = v ++ dropIndent false s) (s : List Char) :
    tidy ('<' :: (u ++ '>' :: s)) = '<' :: (v ++ '>' :: tidy s) := by
  rw [tidy, joinInlineTags_cons (by decide), joinInlineTags_inside h,
    dropIndent_cons (c := '<') (by decide), hu, dropIndent_cons (c := '>') (by decide), tidy]

theorem tidy_opening {t : Tag} (h : t.Legible) (s : List Char) :
    tidy (t.opening ++ s) = t.tidied.opening ++ tidy s := by
  simpa [Tag.opening] using tidy_bracketed (not_mem_content h) (dropIndent_content h) s

theorem tidy_selfClosed {t : Tag} (h : t.Legible) (s : List Char) :
    tidy (t.selfClosed ++ s) = t.tidied.selfClosed ++ tidy s := by
  have hopen : '<' ∉ t.content ++ ['/'] := by simp [not_mem_content h]
  have hcontent : ∀ s, dropIndent false (t.content ++ ['/'] ++ s) =
      t.tidied.content ++ ['/'] ++ dropIndent false s := by
    intro s
    rw [List.append_assoc, List.singleton_append, dropIndent_content h,
      dropIndent_cons (by decide)]
    simp
  simpa [Tag.selfClosed] using tidy_bracketed hopen hcontent s

/-- What stands between the brackets of an end tag. -/
theorem not_mem_closing {t : Tag} (h : t.Legible) : '<' ∉ '/' :: t.name.toList := by
  intro hmem
  rcases List.mem_cons.mp hmem with heq | hmem
  · revert heq
    decide
  · exact h.name.ne hmem rfl rfl

theorem tidy_closing {t : Tag} (h : t.Legible) (s : List Char) :
    tidy (t.closing ++ s) = t.tidied.closing ++ tidy s := by
  have hname : ∀ s, dropIndent false ('/' :: t.name.toList ++ s) =
      '/' :: t.name.toList ++ dropIndent false s := by
    intro s
    rw [List.cons_append, dropIndent_cons (by decide),
      dropIndent_append (staysInLine_of_isName h.name) h.name.nonempty]
    rfl
  simpa [Tag.closing, Tag.tidied] using tidy_bracketed (not_mem_closing h) hname s

/-! ## 5. Tidied trees -/

/-- Text that has been tidied, in front of a tag that may be inline. -/
def tidiedLeaf (inline : Bool) (s : List Char) : Node :=
  .text (String.ofList (dropIndent false (joinEnd inline s)))

/-- Siblings whose text has been put together and tidied, where some text is pending in front of
them.  An end tag follows the last of them. -/
def tidiedRun (pending : List Char) : List Node → List Node
  | [] => [tidiedLeaf false pending]
  | .text s :: ns => tidiedRun (pending ++ s.toList) ns
  | .element tag children :: ns =>
    tidiedLeaf (isInline tag.name.toList) pending :: .element tag children :: tidiedRun [] ns

mutual

/-- A node that has been tidied.  Without children it is still one tag. -/
def Node.tidied : Node → Node
  | .text s => .text s
  | .element tag [] => .element tag.tidied []
  | .element tag (child :: children) =>
    .element tag.tidied (tidiedRun [] (child.tidied :: tidiedEach children))

/-- Siblings, each of them tidied. -/
def tidiedEach : List Node → List Node
  | [] => []
  | n :: ns => n.tidied :: tidiedEach ns

end

/-- An element that has been tidied. -/
def Element.tidied (e : Element) : Element :=
  ⟨e.tag.tidied, if e.children = [] then [] else tidiedRun [] (tidiedEach e.children)⟩

theorem tidied_element_of_ne_nil (tag : Tag) {children : List Node} (h : children ≠ []) :
    (Node.element tag children).tidied =
      .element tag.tidied (tidiedRun [] (tidiedEach children)) := by
  cases children with
  | nil => exact absurd rfl h
  | cons c cs => rw [Node.tidied, tidiedEach]

theorem Element.toNode_tidied (e : Element) : e.tidied.toNode = e.toNode.tidied := by
  obtain ⟨tag, children⟩ := e
  cases children with
  | nil => rfl
  | cons c cs => rfl

theorem tidiedRun_ne_nil (pending : List Char) (ns : List Node) : tidiedRun pending ns ≠ [] := by
  fun_induction tidiedRun pending ns with
  | case1 => exact List.cons_ne_nil _ _
  | case2 _ _ _ ih => exact ih
  | case3 => exact List.cons_ne_nil _ _

/-- A written element begins with a tag that is inline if its name is. -/
theorem write_element_append {tag : Tag} (h : tag.Legible) (children : List Node)
    (s : List Char) :
    ∃ u rest, '<' ∉ u ∧ isInline u = isInline tag.name.toList ∧
      (Node.element tag children).write ++ s = '<' :: (u ++ '>' :: rest) := by
  cases children with
  | nil =>
    refine ⟨tag.content ++ ['/'], s, by simp [not_mem_content h], ?_, ?_⟩
    · rw [isInline_append_cons (by decide), isInline_content]
    · simp [Node.write, Tag.selfClosed]
  | cons c cs =>
    refine ⟨tag.content, c.write ++ (writeAll cs ++ (tag.closing ++ s)), not_mem_content h,
      isInline_content tag, ?_⟩
    simp [Node.write, Tag.opening]

theorem closing_append (t : Tag) (s : List Char) :
    t.closing ++ s = '<' :: ('/' :: t.name.toList ++ '>' :: s) := by
  simp [Tag.closing]

/-- An end tag is not inline. -/
theorem isInline_slash (name : List Char) : isInline ('/' :: name) = false :=
  isInline_append_cons (d := '/') (by decide) [] name

mutual

/-- **Tidying what was written for an element** gives what is written for the tidied element. -/
theorem tidy_write {tag : Tag} : ∀ {children : List Node},
    (Node.element tag children).Readable → ∀ s : List Char,
      tidy ((Node.element tag children).write ++ s) =
        (Node.element tag children).tidied.write ++ tidy s
  | [], ⟨htag, _⟩, s => by
    rw [Node.write, Node.tidied, Node.write, tidy_selfClosed htag.legible]
  | c :: cs, ⟨htag, hchildren⟩, s => by
    have hne : (c :: cs) ≠ [] := List.cons_ne_nil c cs
    have hrun : tidy (writeAll (c :: cs) ++ (tag.closing ++ s)) =
        writeAll (tidiedRun [] (tidiedEach (c :: cs))) ++ tidy (tag.closing ++ s) := by
      rw [closing_append]
      exact tidy_writeAll hchildren [] (not_mem_closing htag.legible) (isInline_slash _) s
    rw [write_element_of_ne_nil tag hne, List.append_assoc, List.append_assoc,
      tidy_opening htag.legible, hrun, tidy_closing htag.legible, tidied_element_of_ne_nil tag hne,
      write_element_of_ne_nil _ (tidiedRun_ne_nil _ _), List.append_assoc, List.append_assoc]

/-- So it is for siblings in front of a tag that is not inline, together with text that is pending in
front of them. -/
theorem tidy_writeAll : ∀ {ns : List Node}, ReadableAll ns → ∀ (pending : List Char)
    {u : List Char}, '<' ∉ u → isInline u = false → ∀ s : List Char,
      tidy (escapeText pending ++ (writeAll ns ++ '<' :: (u ++ '>' :: s))) =
        writeAll (tidiedRun pending (tidiedEach ns)) ++ tidy ('<' :: (u ++ '>' :: s))
  | [], _, pending, u, hu, hinline, s => by
    rw [writeAll, List.nil_append, tidy_escapeText hu, hinline, tidiedEach, tidiedRun, tidiedLeaf,
      writeAll, Node.write, writeAll, String.toList_ofList, List.append_nil]
  | .text t :: ns, ⟨_, hns⟩, pending, u, hu, hinline, s => by
    have hrun := tidy_writeAll hns (pending ++ t.toList) hu hinline s
    rw [escapeText_append, List.append_assoc] at hrun
    rw [writeAll, Node.write, List.append_assoc, hrun, tidiedEach, Node.tidied, tidiedRun]
  | .element tag children :: ns, ⟨hn, hns⟩, pending, u, hu, hinline, s => by
    have hrun : tidy (writeAll ns ++ '<' :: (u ++ '>' :: s)) =
        writeAll (tidiedRun [] (tidiedEach ns)) ++ tidy ('<' :: (u ++ '>' :: s)) :=
      tidy_writeAll hns [] hu hinline s
    obtain ⟨v, rest, hv, hname, hwrite⟩ :=
      write_element_append hn.1.legible children (writeAll ns ++ '<' :: (u ++ '>' :: s))
    have hleaf := tidy_escapeText hv pending rest
    rw [← hwrite, hname] at hleaf
    have hrunEach : tidiedRun pending (tidiedEach (.element tag children :: ns)) =
        tidiedLeaf (isInline tag.name.toList) pending :: (Node.element tag children).tidied ::
          tidiedRun [] (tidiedEach ns) := by
      cases children <;> rfl
    rw [writeAll, List.append_assoc, hleaf, tidy_write hn, hrun, hrunEach, tidiedLeaf, writeAll,
      Node.write, writeAll, String.toList_ofList, List.append_assoc, List.append_assoc]

end

/-- **A tidied section is the section of a tidied tree.** -/
theorem tidyString_toString {e : Element} (h : e.Readable) :
    tidyString e.toString = e.tidied.toString := by
  have htidy := tidy_write h []
  have hnil : tidy [] = [] := by
    rw [tidy, joinInlineTags.eq_def]
    rfl
  rw [List.append_nil, hnil, List.append_nil] at htidy
  rw [tidyString, Element.toString, String.toList_ofList, Element.write, Element.toString,
    Element.write, Element.toNode_tidied]
  exact congrArg String.ofList htidy

/-! ## 6. Reading them -/

theorem readableAll_tidiedRun {ns : List Node} (h : ReadableAll ns) (pending : List Char) :
    ReadableAll (tidiedRun pending ns) := by
  fun_induction tidiedRun pending ns with
  | case1 => exact ⟨trivial, trivial⟩
  | case2 _ _ _ ih => exact ih h.2
  | case3 _ _ _ _ ih => exact ⟨trivial, h.1, ih h.2⟩

mutual

/-- What has been tidied is read as it is written. -/
theorem readable_tidied_node : ∀ {n : Node}, n.Readable → n.tidied.Readable
  | .text _, _ => trivial
  | .element _ [], ⟨htag, _⟩ => ⟨readable_tidied htag, trivial⟩
  | .element _ (n :: ns), ⟨htag, hn, hns⟩ =>
    have hchildren : ReadableAll (n.tidied :: tidiedEach ns) :=
      ⟨readable_tidied_node hn, readableAll_tidiedEach hns⟩
    ⟨readable_tidied htag, readableAll_tidiedRun hchildren []⟩

theorem readableAll_tidiedEach : ∀ {ns : List Node}, ReadableAll ns → ReadableAll (tidiedEach ns)
  | [], _ => trivial
  | _ :: _, ⟨hn, hns⟩ => ⟨readable_tidied_node hn, readableAll_tidiedEach hns⟩

end

/-- **A tidied section can be read.** -/
theorem ofString_tidyString {e : Element} (h : e.Readable) :
    Element.ofString (tidyString e.toString) = .ok e.tidied.settled := by
  rw [tidyString_toString h]
  refine ofString_toString_of_readable ?_
  rw [Element.Readable, Element.toNode_tidied]
  exact readable_tidied_node h

end LecturePlan.Markup

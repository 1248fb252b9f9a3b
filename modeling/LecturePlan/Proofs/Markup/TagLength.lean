import LecturePlan.Compile.Budget
import LecturePlan.Proofs.Compile.Leaves
import LecturePlan.Proofs.Markup.Tags
import LecturePlan.Proofs.Markup.Tidied
import Mathlib.Algebra.Ring.Nat
/-!
# The length of written tags

The writer knows the tags of a tree; the count that a budget is held against finds them again in the
text.  Brackets in text and in values are written as references, so between the brackets of a tag no
other bracket stands, and what is found at a `<` ends where the tag ends.

One thing is not escaped, and ends the search: a line break in a value.  So the count is that of the
tags that stand on one line (`countTags_write`), and it is the length of all tags iff no value has a
line break (`tagLength_write`).  The text length that a budget is given is then that of the written
leaves.
-/

namespace LecturePlan.Markup

open LecturePlan.Text

/-! ## 1. What is written -/

mutual

/-- The tags of all elements of a node, in document order. -/
def Node.tags : Node → List Tag
  | .text _ => []
  | .element tag children => tag :: tagsAll children

/-- The tags of all elements of some siblings. -/
def tagsAll : List Node → List Tag
  | [] => []
  | n :: ns => n.tags ++ tagsAll ns

end

mutual

/-- The tags that are written for a node, with their brackets, in written order. -/
def Node.writtenTags : Node → List (List Char)
  | .text _ => []
  | .element tag [] => [tag.selfClosed]
  | .element tag (child :: children) =>
    tag.opening :: (child.writtenTags ++ writtenTagsAll children) ++ [tag.closing]

/-- The tags that are written for some siblings. -/
def writtenTagsAll : List Node → List (List Char)
  | [] => []
  | n :: ns => n.writtenTags ++ writtenTagsAll ns

end

/-- The written text leaves of a node, one after the other. -/
def Node.writtenText (n : Node) : List Char :=
  (n.leaves []).flatMap fun leaf => escapeText leaf.2.toList

/-- A tag with a name and keys of name characters.  They may be empty. -/
structure Tag.Named (t : Tag) : Prop where
  name : ∀ c ∈ t.name.toList, isNameChar c = true
  keys : ∀ a ∈ t.attributes, ∀ c ∈ a.1.toList, isNameChar c = true

instance (t : Tag) : Decidable t.Named :=
  decidable_of_iff (t.name.toList.all isNameChar = true ∧
      ∀ a ∈ t.attributes, a.1.toList.all isNameChar = true)
    ⟨fun h => ⟨List.all_eq_true.mp h.1, fun a ha => List.all_eq_true.mp (h.2 a ha)⟩,
      fun h => ⟨List.all_eq_true.mpr h.name, fun a ha => List.all_eq_true.mpr (h.keys a ha)⟩⟩

/-- A tag that stands on one line: no value has a line break. -/
def Tag.InLine (t : Tag) : Prop := ∀ a ∈ t.attributes, '\n' ∉ a.2.toList

instance (t : Tag) : Decidable t.InLine :=
  inferInstanceAs (Decidable (∀ a ∈ t.attributes, '\n' ∉ a.2.toList))

/-- The characters of a written tag that are counted: all of them, or none if it spans lines. -/
def countedLength (written : List Char) : Nat := if '\n' ∈ written then 0 else written.length

/-! ## 2. Counting one piece -/

/-- Text in which no tag opens adds nothing. -/
theorem countTags_of_not_mem {s : List Char} (h : '<' ∉ s) (rest : List Char) :
    countTags 0 (s ++ rest) = countTags 0 rest := by
  induction s with
  | nil => rfl
  | cons c s ih =>
    rw [List.mem_cons, not_or] at h
    obtain ⟨hc, hs⟩ := h
    rw [List.cons_append, countTags, if_pos rfl, if_neg (Ne.symm hc), ih hs]

/-- At the end of its line a tag that is open is given up. -/
theorem countTags_line {body : List Char} (h : InTag body) (opened : Nat) (rest : List Char) :
    countTags (opened + 1) (body ++ '\n' :: rest) = countTags 0 rest := by
  induction body generalizing opened with
  | nil => simp [countTags]
  | cons c body ih =>
    obtain ⟨⟨hclose, hline⟩, hbody⟩ := inTag_cons.mp h
    rw [List.cons_append, countTags, if_neg (by omega), if_neg hclose, if_neg hline, ih hbody]

/-- What has no bracket can stand in a tag as far as its first line break. -/
theorem inTag_or_line {body : List Char} (h : '>' ∉ body) :
    InTag body ∧ '\n' ∉ body ∨
      ∃ first rest, InTag first ∧ body = first ++ '\n' :: rest := by
  induction body with
  | nil => exact .inl ⟨.nil, List.not_mem_nil⟩
  | cons c body ih =>
    rw [List.mem_cons, not_or] at h
    obtain ⟨hc, hbody⟩ := h
    by_cases hline : c = '\n'
    · exact .inr ⟨[], body, .nil, by rw [hline, List.nil_append]⟩
    · rcases ih hbody with ⟨hin, hnone⟩ | ⟨first, rest, hfirst, rfl⟩
      · refine .inl ⟨inTag_cons.mpr ⟨⟨Ne.symm hc, hline⟩, hin⟩, ?_⟩
        rw [List.mem_cons, not_or]
        exact ⟨Ne.symm hline, hnone⟩
      · exact .inr ⟨c :: first, rest, inTag_cons.mpr ⟨⟨Ne.symm hc, hline⟩, hfirst⟩, rfl⟩

/-- A tag without brackets inside adds its length, unless it spans lines. -/
theorem countTags_bracketed {body : List Char} (hopen : '<' ∉ body) (hclose : '>' ∉ body)
    (rest : List Char) :
    countTags 0 ('<' :: (body ++ ['>']) ++ rest) =
      countedLength ('<' :: (body ++ ['>'])) + countTags 0 rest := by
  have hsplit : '<' :: (body ++ ['>']) ++ rest = '<' :: (body ++ '>' :: rest) := by simp
  rw [hsplit, countTags, if_pos rfl, if_pos rfl]
  rcases inTag_or_line hclose with ⟨hin, hnone⟩ | ⟨first, rest', hfirst, rfl⟩
  · rw [countTags_inTag hin 0, countedLength, if_neg (by simp [hnone]), List.length_cons,
      List.length_append]
    simp only [List.length_singleton]
    omega
  · have hopen' : '<' ∉ rest' ++ ['>'] := by
      have hrest : '<' ∉ rest' := fun hmem => hopen (by simp [hmem])
      simp [hrest]
    have hend : first ++ '\n' :: rest' ++ '>' :: rest =
        first ++ '\n' :: (rest' ++ ['>'] ++ rest) := by simp
    rw [hend, countTags_line hfirst 0, countTags_of_not_mem hopen', countedLength,
      if_pos (by simp), Nat.zero_add]

/-! ## 3. Brackets and line breaks in tags -/

theorem mem_content {t : Tag} {c : Char} :
    c ∈ t.content ↔ c ∈ t.name.toList ∨ ∃ a ∈ t.attributes,
      c ∈ a.1.toList ∨ c ∈ escapeValue a.2.toList ∨ c = ' ' ∨ c = '=' ∨ c = '"' := by
  simp only [Tag.content, writeAttribute, List.mem_append, List.mem_flatMap, List.mem_cons,
    List.not_mem_nil, or_false]
  refine or_congr_right (exists_congr fun a => and_congr_right fun _ => ?_)
  constructor
  · rintro ((((h | h) | h | h) | h) | h) <;> simp [h]
  · rintro (h | h | h | h | h) <;> simp [h]

/-- Between the brackets of a tag stands no other bracket. -/
theorem bracket_notMem_content {t : Tag} (h : t.Named) {c : Char} (hc : c = '<' ∨ c = '>') :
    c ∉ t.content := by
  intro hmem
  have hnot : isNameChar c = false := by rcases hc with rfl | rfl <;> rfl
  rcases mem_content.mp hmem with hname | ⟨a, ha, hkey | hvalue | hsign⟩
  · exact absurd ((h.name c hname).symm.trans hnot) (by decide)
  · exact absurd ((h.keys a ha c hkey).symm.trans hnot) (by decide)
  · obtain ⟨hopen, hclose⟩ := ne_bracket_of_mem_escapeValue hvalue
    exact hc.elim hopen hclose
  · rcases hc with rfl | rfl <;> simp at hsign

/-- A line break is written as it is, and stands for itself only. -/
theorem line_mem_escapeValue {s : List Char} : '\n' ∈ escapeValue s ↔ '\n' ∈ s := by
  rw [escapeValue, List.mem_flatMap]
  constructor
  · rintro ⟨c, hc, hline⟩
    unfold escapeValueChar escapeTextChar at hline
    split_ifs at hline <;> simp at hline
    rwa [hline]
  · exact fun h => ⟨'\n', h, by decide⟩

theorem line_notMem_name {t : Tag} (h : t.Named) : '\n' ∉ t.name.toList :=
  fun hmem => absurd (h.name _ hmem) (by decide)

/-- A tag spans lines iff one of its values does. -/
theorem line_notMem_content {t : Tag} (h : t.Named) : '\n' ∉ t.content ↔ t.InLine := by
  have hkeys : ∀ a ∈ t.attributes, '\n' ∉ a.1.toList :=
    fun a ha hmem => absurd (h.keys a ha _ hmem) (by decide)
  rw [mem_content]
  constructor
  · intro hnone a ha hline
    exact hnone (.inr ⟨a, ha, .inr (.inl (line_mem_escapeValue.mpr hline))⟩)
  · rintro hline (hname | ⟨a, ha, hkey | hvalue | hsign⟩)
    · exact line_notMem_name h hname
    · exact hkeys a ha hkey
    · exact hline a ha (line_mem_escapeValue.mp hvalue)
    · simp at hsign

section Written

variable {t : Tag}

theorem countTags_opening (h : t.Named) (rest : List Char) :
    countTags 0 (t.opening ++ rest) = countedLength t.opening + countTags 0 rest :=
  countTags_bracketed (bracket_notMem_content h (.inl rfl)) (bracket_notMem_content h (.inr rfl)) rest

theorem countTags_selfClosed (h : t.Named) (rest : List Char) :
    countTags 0 (t.selfClosed ++ rest) = countedLength t.selfClosed + countTags 0 rest := by
  have hbody : t.selfClosed = '<' :: (t.content ++ ['/'] ++ ['>']) := by simp [Tag.selfClosed]
  rw [hbody]
  refine countTags_bracketed ?_ ?_ rest
  · simp [bracket_notMem_content h]
  · simp [bracket_notMem_content h]

theorem countTags_closing (h : t.Named) (rest : List Char) :
    countTags 0 (t.closing ++ rest) = countedLength t.closing + countTags 0 rest := by
  have hbody : t.closing = '<' :: ('/' :: t.name.toList ++ ['>']) := by simp [Tag.closing]
  have hname : ∀ c : Char, c = '<' ∨ c = '>' → c ∉ t.name.toList :=
    fun c hc hmem => bracket_notMem_content h hc (mem_content.mpr (.inl hmem))
  rw [hbody]
  refine countTags_bracketed ?_ ?_ rest
  · simp [hname]
  · simp [hname]

theorem line_notMem_opening (h : t.Named) : '\n' ∉ t.opening ↔ t.InLine := by
  rw [← line_notMem_content h]
  simp [Tag.opening]

theorem line_notMem_selfClosed (h : t.Named) : '\n' ∉ t.selfClosed ↔ t.InLine := by
  rw [← line_notMem_content h]
  simp [Tag.selfClosed]

theorem line_notMem_closing (h : t.Named) : '\n' ∉ t.closing := by
  simp [Tag.closing, line_notMem_name h]

end Written

/-! ## 4. Counting trees -/

mutual

/-- **The tags that are counted are those written on one line**, whatever follows the node. -/
theorem countTags_write : ∀ (n : Node), (∀ t ∈ n.tags, t.Named) → ∀ rest : List Char,
    countTags 0 (n.write ++ rest) = (n.writtenTags.map countedLength).sum + countTags 0 rest
  | .text s, _, rest => by
    rw [Node.write, countTags_of_not_mem (not_mem_escapeText _)]
    exact (Nat.zero_add _).symm
  | .element tag [], h, rest => by
    have htag := h tag (by simp [Node.tags])
    rw [Node.write, countTags_selfClosed htag]
    simp [Node.writtenTags]
  | .element tag (c :: cs), h, rest => by
    have htag := h tag (by simp [Node.tags])
    have hc := countTags_write c fun t ht => h t (by simp [Node.tags, tagsAll, ht])
    have hcs := countTags_writeAll cs fun t ht => h t (by simp [Node.tags, tagsAll, ht])
    simp only [Node.write, Node.writtenTags, List.append_assoc, List.map_append, List.map_cons,
      List.map_nil, List.sum_append, List.sum_cons, List.sum_nil, List.cons_append]
    rw [countTags_opening htag, hc, hcs, countTags_closing htag]
    omega

theorem countTags_writeAll : ∀ (ns : List Node), (∀ t ∈ tagsAll ns, t.Named) →
    ∀ rest : List Char, countTags 0 (writeAll ns ++ rest) =
      ((writtenTagsAll ns).map countedLength).sum + countTags 0 rest
  | [], _, rest => by simp [writeAll, writtenTagsAll]
  | n :: ns, h, rest => by
    have hn := countTags_write n fun t ht => h t (by simp [tagsAll, ht])
    have hns := countTags_writeAll ns fun t ht => h t (by simp [tagsAll, ht])
    rw [writeAll, List.append_assoc, hn, hns, writtenTagsAll, List.map_append, List.sum_append]
    omega

end

mutual

/-- The tags of a node are all written on one line iff no value has a line break. -/
theorem line_notMem_writtenTags : ∀ (n : Node), (∀ t ∈ n.tags, t.Named) →
    ((∀ w ∈ n.writtenTags, '\n' ∉ w) ↔ ∀ t ∈ n.tags, t.InLine)
  | .text s, _ => by simp [Node.writtenTags, Node.tags]
  | .element tag [], h => by
    have htag := h tag (by simp [Node.tags])
    simpa [Node.writtenTags, Node.tags, tagsAll] using line_notMem_selfClosed htag
  | .element tag (c :: cs), h => by
    have htag := h tag (by simp [Node.tags])
    have hc := line_notMem_writtenTags c fun t ht => h t (by simp [Node.tags, tagsAll, ht])
    have hcs := line_notMem_writtenTagsAll cs fun t ht => h t (by simp [Node.tags, tagsAll, ht])
    simp only [Node.writtenTags, Node.tags, tagsAll, List.cons_append, List.forall_mem_cons,
      List.forall_mem_append, List.not_mem_nil, false_imp_iff, forall_const, and_true,
      line_notMem_opening htag, line_notMem_closing htag, hc, hcs, not_false_eq_true]

theorem line_notMem_writtenTagsAll : ∀ (ns : List Node), (∀ t ∈ tagsAll ns, t.Named) →
    ((∀ w ∈ writtenTagsAll ns, '\n' ∉ w) ↔ ∀ t ∈ tagsAll ns, t.InLine)
  | [], _ => by simp [writtenTagsAll, tagsAll]
  | n :: ns, h => by
    have hn := line_notMem_writtenTags n fun t ht => h t (by simp [tagsAll, ht])
    have hns := line_notMem_writtenTagsAll ns fun t ht => h t (by simp [tagsAll, ht])
    rw [writtenTagsAll, tagsAll, List.forall_mem_append, List.forall_mem_append, hn, hns]

end

mutual

/-- A written node is its tags and its written leaves. -/
theorem length_write (around : List Tag) : ∀ n : Node,
    n.write.length = (n.writtenTags.map List.length).sum +
      ((n.leaves around).flatMap fun leaf => escapeText leaf.2.toList).length
  | .text s => by simp [Node.write, Node.writtenTags, Node.leaves]
  | .element tag [] => by simp [Node.write, Node.writtenTags, Node.leaves, leavesAll]
  | .element tag (c :: cs) => by
    have hc := length_write (tag :: around) c
    have hcs := length_writeAll (tag :: around) cs
    simp only [Node.write, Node.writtenTags, Node.leaves, leavesAll, List.length_append,
      List.map_append, List.map_cons, List.map_nil, List.sum_append, List.sum_cons, List.sum_nil,
      List.cons_append, List.flatMap_append]
    omega

theorem length_writeAll (around : List Tag) : ∀ ns : List Node,
    (writeAll ns).length = ((writtenTagsAll ns).map List.length).sum +
      ((leavesAll around ns).flatMap fun leaf => escapeText leaf.2.toList).length
  | [] => rfl
  | n :: ns => by
    have hn := length_write around n
    have hns := length_writeAll around ns
    simp only [writeAll, writtenTagsAll, leavesAll, List.length_append, List.map_append,
      List.sum_append, List.flatMap_append]
    omega

end

theorem countedLength_le (w : List Char) : countedLength w ≤ w.length := by
  unfold countedLength
  split
  · exact Nat.zero_le _
  · exact Nat.le_refl _

theorem countedLength_eq_iff (w : List Char) : countedLength w = w.length ↔ '\n' ∉ w := by
  unfold countedLength
  split
  · next hline =>
    have hpos := List.length_pos_of_mem hline
    exact ⟨fun h => absurd h (by omega), fun h => absurd hline h⟩
  · next hline => exact ⟨fun _ => hline, fun _ => rfl⟩

theorem sum_countedLength_le (ws : List (List Char)) :
    (ws.map countedLength).sum ≤ (ws.map List.length).sum := by
  induction ws with
  | nil => exact Nat.le_refl _
  | cons w ws ih =>
    rw [List.map_cons, List.map_cons, List.sum_cons, List.sum_cons]
    exact Nat.add_le_add (countedLength_le w) ih

/-- All characters are counted iff every tag stands on one line. -/
theorem sum_countedLength_eq_iff (ws : List (List Char)) :
    (ws.map countedLength).sum = (ws.map List.length).sum ↔ ∀ w ∈ ws, '\n' ∉ w := by
  induction ws with
  | nil => simp
  | cons w ws ih =>
    have hw := countedLength_le w
    have hws := sum_countedLength_le ws
    rw [List.map_cons, List.map_cons, List.sum_cons, List.sum_cons, List.forall_mem_cons, ← ih,
      ← countedLength_eq_iff w]
    omega

/-! ## 5. The count of a written tree -/

/-- **The count is the length of the tags that stand on one line.** -/
theorem tagLength_write (n : Node) (h : ∀ t ∈ n.tags, t.Named) :
    tagLength n.write = (n.writtenTags.map countedLength).sum ∧
      (tagLength n.write = (n.writtenTags.map List.length).sum ↔ ∀ t ∈ n.tags, t.InLine) ∧
      ((∀ t ∈ n.tags, t.InLine) → ∀ (id markup text : Nat),
        checkContent id n.toString (.split markup text) =
          checkLength id .markup (n.writtenTags.map List.length).sum markup ++
            checkLength id .text n.writtenText.length text) := by
  have hcount : tagLength n.write = (n.writtenTags.map countedLength).sum := by
    have hwrite := countTags_write n h []
    rwa [List.append_nil] at hwrite
  have hiff : tagLength n.write = (n.writtenTags.map List.length).sum ↔ ∀ t ∈ n.tags, t.InLine := by
    rw [hcount, sum_countedLength_eq_iff, line_notMem_writtenTags n h]
  refine ⟨hcount, hiff, fun hline id markup text => ?_⟩
  have hlength : n.write.length = (n.writtenTags.map List.length).sum + n.writtenText.length :=
    length_write [] n
  have htext : n.toString.toList = n.write := String.toList_ofList
  rw [checkContent, htext, hiff.mpr hline, hlength, Nat.add_sub_cancel_left]

/-- Brackets, quotes and line breaks in text, and brackets and quotes in a value, make no difference. -/
theorem tagLength_write_of_markup_in_value :
    let n : Node := .element ⟨"say-as", [("xml:id", "a > 'b' < \"c\"")]⟩
      [.text "1 < 2\n> 0", .element ⟨"br", []⟩ []]
    (∀ t ∈ n.tags, t.Named) ∧ (∀ t ∈ n.tags, t.InLine) ∧
      tagLength n.write = (n.writtenTags.map List.length).sum ∧
      checkContent 1 n.toString (.split 70 15) = [⟨1, .markup, 71, 70⟩] := by
  intro n
  have hnamed : ∀ t ∈ n.tags, t.Named := by decide +kernel
  have hline : ∀ t ∈ n.tags, t.InLine := by decide +kernel
  obtain ⟨-, hiff, hcheck⟩ := tagLength_write n hnamed
  refine ⟨hnamed, hline, hiff.mpr hline, ?_⟩
  rw [hcheck hline]
  decide +kernel

/-- A line break in a value hides the tag it stands in. -/
theorem tagLength_write_ne_of_line_break :
    let n : Node := .element ⟨"a", [("k", "x\ny")]⟩ [.text "t"]
    (∀ t ∈ n.tags, t.Named) ∧ tagLength n.write = 4 ∧ (n.writtenTags.map List.length).sum = 15 := by
  decide +kernel

end LecturePlan.Markup

import LecturePlan.Proofs.Markup.TagLength
import Mathlib.Data.List.Chain
/-!
# The tidy form

Tidying does not look at what it has written.  In front of `<mark` and a line break it joins white space
and takes the line break with the tag, so white space between this and a second tag is not joined, and
when the text is tidied again there may be more to do.  In the text of a tree this does not happen,
whatever its leaves and values are: a bracket in them is escaped, so every tag is closed before the next
one opens (`Bracketed`), and what the pass takes with a tag is part of the tag.

* `spaced_tidy`: in front of each inline tag, a tidied text of this kind has one space or none,
* `isChain_dropIndent`: no indentation follows a line break,
* `tidy_of_spaced`: a text with both properties is not changed.

The first is proved for one piece of text and the tag behind it (`spaced_joinEnd`), since the two passes
together treat each such piece by itself (`tidy_open`).
-/

namespace LecturePlan.Markup

open LecturePlan.Text

/-! ## 1. The form -/

/-- **The form that tidying gives a text.** -/
structure IsTidy (s : List Char) : Prop where
  /-- No indentation follows a line break. -/
  unindented : s.IsChain fun c d => isLineBreak c = true → isIndent d = false
  /-- White space in front of an inline tag is one space, with another character in front of it. -/
  oneSpace : ∀ {before name after : List Char} {b e : Char},
    s = before ++ b :: '<' :: (name ++ e :: after) → isBlank b = true → name ∈ inlineNames →
      endsTagName e = true → b = ' ' ∧ ∃ d ∈ before.getLast?, isBlank d = false

/-- White space in front of inline tags is one space, where white space stands in front of the text if
`blank`. -/
def Spaced (blank : Bool) : List Char → Prop
  | [] => True
  | c :: s =>
    (isBlank c = true → cutAfterBlank s ≠ none → c = ' ' ∧ blank = false) ∧ Spaced (isBlank c) s

/-- A text in which every tag is closed before the next one opens. -/
inductive Bracketed : List Char → Prop
  | text {s : List Char} : '<' ∉ s → Bracketed s
  | tag {s u rest : List Char} : '<' ∉ s → '<' ∉ u → Bracketed rest →
      Bracketed (s ++ '<' :: (u ++ '>' :: rest))

/-! ### Spaces -/

section Spaced

variable {blank : Bool}

theorem Spaced.mono {s : List Char} (h : Spaced blank s) : Spaced false s := by
  cases s with
  | nil => trivial
  | cons c s => exact ⟨fun hc hcut => ⟨(h.1 hc hcut).1, rfl⟩, h.2⟩

theorem spaced_cons_of_ne {c : Char} (hc : isBlank c = false) {s : List Char} :
    Spaced blank (c :: s) ↔ Spaced false s := by
  rw [Spaced, hc]
  exact and_iff_right fun h => absurd h Bool.false_ne_true

theorem Spaced.append_right {u s : List Char} (h : Spaced blank (u ++ s)) : Spaced false s := by
  induction u generalizing blank with
  | nil => exact h.mono
  | cons c u ih => exact ih h.2

/-- What stands in front of an inline tag, and in front of that. -/
theorem Spaced.oneSpace {before s : List Char} {b : Char} (h : Spaced blank (before ++ b :: s))
    (hb : isBlank b = true) (hs : cutAfterBlank s ≠ none) :
    b = ' ' ∧ (before.getLast?.elim blank isBlank) = false := by
  induction before generalizing blank with
  | nil => exact h.1 hb hs
  | cons c before ih =>
    obtain ⟨hspace, hlast⟩ := ih h.2
    refine ⟨hspace, ?_⟩
    rw [List.getLast?_cons]
    cases hd : before.getLast? with
    | none => simpa [hd] using hlast
    | some d => simpa [hd] using hlast

/-- A run of white space in front of an inline tag is one space. -/
theorem Spaced.run {run s : List Char} (h : Spaced blank (run ++ s)) (hrun : allBlank run = true)
    (hne : run ≠ []) (hs : cutAfterBlank s ≠ none) : run = [' '] ∧ blank = false := by
  induction run generalizing blank with
  | nil => exact absurd rfl hne
  | cons c run ih =>
    rw [allBlank_cons, Bool.and_eq_true] at hrun
    by_cases hnil : run = []
    · obtain ⟨hspace, hblank⟩ := h.1 hrun.1 (by rwa [hnil])
      exact ⟨by rw [hspace, hnil], hblank⟩
    · -- a second character has white space in front of it
      obtain ⟨-, hblank⟩ := ih h.2 hrun.2 hnil
      rw [hrun.1] at hblank
      cases hblank

theorem spaced_of_notMem {s : List Char} (h : '<' ∉ s) : Spaced blank s := by
  induction s generalizing blank with
  | nil => trivial
  | cons c s ih =>
    have hs : '<' ∉ s := fun hmem => h (List.mem_cons_of_mem c hmem)
    refine ⟨fun _ hcut => absurd ?_ hcut, ih hs⟩
    cases s with
    | nil => rfl
    | cons d s =>
      exact cutAfterBlank_cons_of_ne (fun heq => hs (heq ▸ List.mem_cons_self)) s

/-- No tag opens in a tag. -/
theorem spaced_inside {u : List Char} (h : '<' ∉ u) {s : List Char} (hs : Spaced false s) :
    Spaced blank (u ++ '>' :: s) := by
  induction u generalizing blank with
  | nil => exact (spaced_cons_of_ne (by decide)).mpr hs
  | cons c u ih =>
    have hu : '<' ∉ u := fun hmem => h (List.mem_cons_of_mem c hmem)
    refine ⟨fun _ hcut => absurd ?_ hcut, ih hu⟩
    cases u with
    | nil => exact cutAfterBlank_cons_of_ne (by decide) s
    | cons d u => exact cutAfterBlank_cons_of_ne (fun heq => hu (heq ▸ List.mem_cons_self)) _

end Spaced

/-! ## 2. Texts that are not changed -/

/-- White space that is one space is joined to one space. -/
theorem joinInlineTags_of_spaced {s : List Char} (h : Spaced false s) : joinInlineTags s = s := by
  fun_induction joinInlineTags s with
  | case1 => rfl
  | case2 c s hc tag rest htag ih =>
    have hrun : allBlank (c :: s.takeWhile isBlank) = true := by
      rw [allBlank_cons, hc, Bool.true_and]
      exact List.all_takeWhile
    have hsplit : c :: s.takeWhile isBlank ++ s.dropWhile isBlank = c :: s := by
      rw [List.cons_append, List.takeWhile_append_dropWhile]
    rw [← hsplit] at h
    obtain ⟨hspace, -⟩ := h.run hrun (List.cons_ne_nil _ _) (by rw [htag]; exact Option.some_ne_none _)
    have hrest : Spaced false rest := by
      rw [← cutAfterBlank_append htag] at h
      exact h.append_right.append_right
    rw [ih hrest, List.cons_append, cutAfterBlank_append htag, ← hsplit, hspace]
    rfl
  | case3 c s hc hnone ih =>
    have hsplit : c :: s.takeWhile isBlank ++ s.dropWhile isBlank = c :: s := by
      rw [List.cons_append, List.takeWhile_append_dropWhile]
    rw [← hsplit] at h
    rw [ih h.append_right, hsplit]
  | case4 c s hc ih => rw [ih h.2.mono]

/-- Indentation that is not there is not dropped. -/
theorem dropIndent_of_isChain {s : List Char} {atBreak : Bool}
    (h : s.IsChain fun c d => isLineBreak c = true → isIndent d = false)
    (hfirst : atBreak = true → ∀ d ∈ s.head?, isIndent d = false) : dropIndent atBreak s = s := by
  induction s generalizing atBreak with
  | nil => rfl
  | cons c s ih =>
    have hnext : isLineBreak c = true → ∀ d ∈ s.head?, isIndent d = false :=
      fun hc d hd => (List.isChain_cons.mp h).1 d hd hc
    have htail := (List.isChain_cons.mp h).2
    rw [dropIndent]
    split
    · next hc => rw [ih htail fun _ => hnext hc]
    · rw [if_neg, ih htail fun h => absurd h Bool.false_ne_true]
      intro hdropped
      obtain ⟨hbreak, hindent⟩ := Bool.and_eq_true_iff.mp hdropped
      rw [hfirst hbreak c rfl] at hindent
      cases hindent

/-- **A text that is spaced and not indented is tidy already.** -/
theorem tidy_of_spaced {s : List Char} (h : Spaced false s)
    (hchain : s.IsChain fun c d => isLineBreak c = true → isIndent d = false) : tidy s = s := by
  rw [tidy, joinInlineTags_of_spaced h,
    dropIndent_of_isChain hchain fun h => absurd h Bool.false_ne_true]

/-! ## 3. Tidied texts -/

/-- **No indentation is left**, nor any at the beginning of a text that stands behind a line break. -/
theorem isChain_dropIndent (atBreak : Bool) (s : List Char) :
    (dropIndent atBreak s).IsChain (fun c d => isLineBreak c = true → isIndent d = false) ∧
      (atBreak = true → ∀ d ∈ (dropIndent atBreak s).head?, isIndent d = false) := by
  induction s generalizing atBreak with
  | nil => exact ⟨.nil, fun _ d hd => absurd hd (by simp [dropIndent])⟩
  | cons c s ih =>
    rw [dropIndent]
    split
    · next hc =>
      refine ⟨List.isChain_cons.mpr ⟨fun d hd _ => (ih true).2 rfl d hd, (ih true).1⟩, ?_⟩
      intro _ d hd
      rw [List.head?_cons, Option.mem_some_iff] at hd
      subst hd
      simp only [isLineBreak, Bool.or_eq_true, beq_iff_eq] at hc
      rcases hc with rfl | rfl <;> rfl
    · next hc =>
      split
      · next hdropped =>
        obtain ⟨rfl, -⟩ := Bool.and_eq_true_iff.mp hdropped
        exact ih true
      · next hkept =>
        refine ⟨List.isChain_cons.mpr ⟨fun d _ hbreak => absurd hbreak hc, (ih false).1⟩, ?_⟩
        rintro rfl d hd
        rw [List.head?_cons, Option.mem_some_iff] at hd
        subst hd
        simpa using hkept

theorem dropIndent_append_cons {d : Char} (hd : staysInLine d = true) (atBreak : Bool)
    (s rest : List Char) :
    dropIndent atBreak (s ++ d :: rest) = dropIndent atBreak s ++ d :: dropIndent false rest := by
  have hescape : ∀ c : Char, [c] = [c] ∨ staysInLine c = true ∧ [c] ≠ [] ∧ [c].all staysInLine = true :=
    fun c => .inl rfl
  simpa using dropIndent_flatMap hescape hd atBreak s rest

/-- A piece of text and the tag behind it are tidied by themselves. -/
theorem tidy_open {s u : List Char} (hs : '<' ∉ s) (hu : '<' ∉ u) (rest : List Char) :
    tidy (s ++ '<' :: (u ++ '>' :: rest)) =
      dropIndent false (joinEnd (isInline u) s) ++ '<' :: (dropIndent false u ++ '>' :: tidy rest) := by
  rw [tidy, joinInlineTags_open hs hu, dropIndent_append_cons (by decide),
    dropIndent_append_cons (by decide), tidy]

theorem notMem_dropIndent {c : Char} {s : List Char} (h : c ∉ s) (atBreak : Bool) :
    c ∉ dropIndent atBreak s := by
  induction s generalizing atBreak with
  | nil => exact List.not_mem_nil
  | cons d s ih =>
    rw [List.mem_cons, not_or] at h
    rw [dropIndent]
    split_ifs <;> simp [h.1, ih h.2]

theorem notMem_joinEnd {c : Char} (hc : c ≠ ' ') {s : List Char} (h : c ∉ s) (inline : Bool) :
    c ∉ joinEnd inline s := by
  induction s with
  | nil => exact List.not_mem_nil
  | cons d s ih =>
    rw [List.mem_cons, not_or] at h
    rw [joinEnd]
    split_ifs <;> simp [hc, h.1, ih h.2]

/-- Dropping indentation inside a tag leaves its name alone. -/
theorem isInline_dropIndent (u : List Char) : isInline (dropIndent false u) = isInline u := by
  have hname : (splitBefore endsTagName (dropIndent false u)).1 = (splitBefore endsTagName u).1 := by
    simp only [splitBefore]
    induction u with
    | nil => rfl
    | cons c u ih =>
      rw [dropIndent, Bool.false_and, if_neg Bool.false_ne_true]
      split
      · next hc =>
        have hends : endsTagName c = true := by rw [endsTagName, isBlank_of_isLineBreak hc]; rfl
        simp [hends]
      · simp only [List.takeWhile_cons, ih]
  rw [isInline, hname, isInline]

/-- White space that is kept has more text behind it, or a tag that is not inline. -/
theorem cutAfterBlank_of_kept {inline : Bool} {s t : List Char}
    (htag : cutAfterBlank ('<' :: t) ≠ none → inline = true) (hs : '<' ∉ s)
    (hkept : inline = true → allBlank s = false) (atBreak : Bool) :
    cutAfterBlank (dropIndent atBreak (joinEnd inline s) ++ '<' :: t) = none := by
  cases htext : dropIndent atBreak (joinEnd inline s) with
  | nil =>
    by_contra hopens
    have hblank : allBlank (dropIndent atBreak (joinEnd inline s)) = true := by rw [htext]; rfl
    rw [allBlank_dropIndent, allBlank_joinEnd, hkept (htag hopens)] at hblank
    cases hblank
  | cons d rest =>
    have hopen : '<' ∉ dropIndent atBreak (joinEnd inline s) :=
      notMem_dropIndent (notMem_joinEnd (by decide) hs inline) atBreak
    rw [htext, List.mem_cons, not_or] at hopen
    exact cutAfterBlank_cons_of_ne (Ne.symm hopen.1) _

/-- **Text in front of a tag is spaced once it has been joined**, also when indentation is dropped.  If
it is all white space, this must not go on from white space in front of it. -/
theorem spaced_joinEnd {inline : Bool} {t : List Char} (ht : Spaced false t)
    (htag : cutAfterBlank ('<' :: t) ≠ none → inline = true) {s : List Char} (hs : '<' ∉ s)
    (blank atBreak : Bool)
    (h : inline = true → allBlank s = true → s ≠ [] → blank = false ∧ atBreak = false) :
    Spaced blank (dropIndent atBreak (joinEnd inline s) ++ '<' :: t) := by
  induction s generalizing blank atBreak with
  | nil => exact (spaced_cons_of_ne (by decide)).mpr ht
  | cons c s ih =>
    rw [List.mem_cons, not_or] at hs
    rw [joinEnd]
    split
    · next hjoined =>
      obtain ⟨rfl, hblank⟩ := Bool.and_eq_true_iff.mp hjoined
      obtain ⟨rfl, rfl⟩ := h rfl hblank (List.cons_ne_nil c s)
      exact ⟨fun _ _ => ⟨rfl, rfl⟩, (spaced_cons_of_ne (by decide)).mpr ht⟩
    · next hkept =>
      have hword : inline = true → isBlank c = true → allBlank s = false := by
        rintro rfl hc
        simpa [allBlank_cons, hc] using hkept
      have hnext : ∀ b, (isBlank c = false → b = false) →
          Spaced blank (c :: dropIndent b (joinEnd inline s) ++ '<' :: t) := by
        intro b hb
        refine ⟨fun hc hopens => ?_, ih hs.2 _ _ fun hinline hblank _ => ?_⟩
        · exact absurd (cutAfterBlank_of_kept htag hs.2 (fun h => hword h hc) b) hopens
        · cases hc : isBlank c with
          | false => exact ⟨rfl, hb hc⟩
          | true => rw [hword hinline hc] at hblank; cases hblank
      rw [dropIndent]
      split
      · next hbreak =>
        exact hnext true fun hc => by rw [isBlank_of_isLineBreak hbreak] at hc; cases hc
      · split
        · next hdropped =>
          have hc : isBlank c = true := isBlank_of_isIndent (Bool.and_eq_true_iff.mp hdropped).2
          refine ih hs.2 _ _ fun hinline hblank _ => ?_
          rw [hword hinline hc] at hblank
          cases hblank
        · exact hnext false fun _ => rfl

/-- **A tidied text is spaced**, if its tags are closed. -/
theorem spaced_tidy {s : List Char} (h : Bracketed s) : Spaced false (tidy s) := by
  induction h with
  | text hs =>
    rw [tidy, joinInlineTags_of_spaced (spaced_of_notMem hs)]
    exact spaced_of_notMem (notMem_dropIndent hs false)
  | @tag s u rest hs hu _ ih =>
    rw [tidy_open hs hu]
    refine spaced_joinEnd (spaced_inside (notMem_dropIndent hu false) ih) (fun hopens => ?_) hs _ _
      fun _ _ _ => ⟨rfl, rfl⟩
    rcases cutAfterBlank_bracketed (notMem_dropIndent hu false) (tidy rest) with
      ⟨-, hnone⟩ | ⟨hinline, -⟩
    · exact absurd hnone hopens
    · rwa [isInline_dropIndent] at hinline

/-! ## 4. Written trees -/

namespace Bracketed

theorem append {s t : List Char} (hs : '<' ∉ s) (ht : Bracketed t) : Bracketed (s ++ t) := by
  cases ht with
  | text ht =>
    refine .text fun hmem => ?_
    exact (List.mem_append.mp hmem).elim hs ht
  | @tag s' u rest hs' hu hrest =>
    rw [← List.append_assoc]
    refine .tag (fun hmem => ?_) hu hrest
    exact (List.mem_append.mp hmem).elim hs hs'

theorem bracket {u t : List Char} (hu : '<' ∉ u) (ht : Bracketed t) :
    Bracketed ('<' :: (u ++ '>' :: t)) := by
  have h := Bracketed.tag List.not_mem_nil hu ht
  rwa [List.nil_append] at h

variable {t : Tag} {rest : List Char}

theorem opening (h : t.Named) (hrest : Bracketed rest) : Bracketed (t.opening ++ rest) := by
  simpa [Tag.opening] using Bracketed.bracket (bracket_notMem_content h (.inl rfl)) hrest

theorem selfClosed (h : t.Named) (hrest : Bracketed rest) : Bracketed (t.selfClosed ++ rest) := by
  have hcontent : '<' ∉ t.content ++ ['/'] := by simp [bracket_notMem_content h]
  simpa [Tag.selfClosed] using Bracketed.bracket hcontent hrest

theorem closing (h : t.Named) (hrest : Bracketed rest) : Bracketed (t.closing ++ rest) := by
  have hname : '<' ∉ '/' :: t.name.toList := by
    have hmem : '<' ∉ t.name.toList :=
      fun hmem => bracket_notMem_content h (.inl rfl) (mem_content.mpr (.inl hmem))
    simp [hmem]
  simpa [Tag.closing] using Bracketed.bracket hname hrest

end Bracketed

mutual

/-- What is written closes its tags. -/
theorem bracketed_write : ∀ (n : Node), (∀ t ∈ n.tags, t.Named) → ∀ {rest : List Char},
    Bracketed rest → Bracketed (n.write ++ rest)
  | .text s, _, rest, hrest => by
    rw [Node.write]
    exact hrest.append (not_mem_escapeText _)
  | .element tag [], h, rest, hrest => by
    rw [Node.write]
    exact hrest.selfClosed (h tag (by simp [Node.tags]))
  | .element tag (c :: cs), h, rest, hrest => by
    have htag := h tag (by simp [Node.tags])
    have hcs := bracketed_writeAll cs (fun t ht => h t (by simp [Node.tags, tagsAll, ht]))
      (hrest.closing htag)
    have hc := bracketed_write c (fun t ht => h t (by simp [Node.tags, tagsAll, ht])) hcs
    rw [Node.write]
    simpa only [List.append_assoc] using hc.opening htag

theorem bracketed_writeAll : ∀ (ns : List Node), (∀ t ∈ tagsAll ns, t.Named) →
    ∀ {rest : List Char}, Bracketed rest → Bracketed (writeAll ns ++ rest)
  | [], _, rest, hrest => hrest
  | n :: ns, h, rest, hrest => by
    have hns := bracketed_writeAll ns (fun t ht => h t (by simp [tagsAll, ht])) hrest
    rw [writeAll, List.append_assoc]
    exact bracketed_write n (fun t ht => h t (by simp [tagsAll, ht])) hns

end

/-- The name of an inline tag is found. -/
theorem cutAfterBlank_inlineName {name : List Char} (hname : name ∈ inlineNames) {e : Char}
    (he : endsTagName e = true) (after : List Char) :
    cutAfterBlank ('<' :: (name ++ e :: after)) = some ('<' :: (name ++ [e]), after) := by
  have hnames : inlineNames.all (fun name => name.all fun c => !endsTagName c) = true := by
    decide +kernel
  have hplain : ∀ c ∈ name, endsTagName c = false := fun c hc => by
    simpa using List.all_eq_true.mp (List.all_eq_true.mp hnames name hname) c hc
  rw [cutAfterBlank_open (splitBefore_of_forall hplain he after),
    if_pos (List.contains_iff_mem.mpr hname)]

theorem write_element_eq_cons (tag : Tag) (children : List Node) :
    ∃ s, (Node.element tag children).write = '<' :: s := by
  cases children with
  | nil => exact ⟨_, rfl⟩
  | cons c cs => exact ⟨_, rfl⟩

/-- White space does not open the text of a tree in front of a tag. -/
theorem spaced_tidy_write {n : Node} (h : ∀ t ∈ n.tags, t.Named) (blank : Bool) :
    Spaced blank (tidy n.write) := by
  have hspaced : Spaced false (tidy n.write) := by
    have hwrite := bracketed_write n h (.text List.not_mem_nil)
    rw [List.append_nil] at hwrite
    exact spaced_tidy hwrite
  cases n with
  | text s =>
    have hopen : '<' ∉ (Node.text s).write := not_mem_escapeText _
    rw [tidy, joinInlineTags_of_spaced (spaced_of_notMem hopen)]
    exact spaced_of_notMem (notMem_dropIndent hopen false)
  | element tag children =>
    obtain ⟨s, hs⟩ := write_element_eq_cons tag children
    rw [hs, tidy, joinInlineTags_cons (by decide), dropIndent_cons (by decide)] at hspaced ⊢
    rwa [spaced_cons_of_ne (by decide)] at hspaced ⊢

/-- **A written tree is brought into the tidy form**, and is not changed by tidying it again. -/
theorem isTidy_tidyString (n : Node) (h : ∀ t ∈ n.tags, t.Named) :
    IsTidy (tidyString n.toString).toList ∧
      tidyString (tidyString n.toString) = tidyString n.toString := by
  have hlist : (tidyString n.toString).toList = tidy n.write := by
    rw [tidyString, String.toList_ofList, Node.toString, String.toList_ofList]
  have hchain : (tidy n.write).IsChain fun c d => isLineBreak c = true → isIndent d = false :=
    (isChain_dropIndent false (joinInlineTags n.write)).1
  rw [hlist]
  refine ⟨⟨hchain, fun {before name after b e} heq hb hname he => ?_⟩, ?_⟩
  · have hopens : cutAfterBlank ('<' :: (name ++ e :: after)) ≠ none := by
      rw [cutAfterBlank_inlineName hname he]
      exact Option.some_ne_none _
    have hspaced := spaced_tidy_write h true
    rw [heq] at hspaced
    obtain ⟨hspace, hlast⟩ := hspaced.oneSpace hb hopens
    refine ⟨hspace, ?_⟩
    cases hd : before.getLast? with
    | none => rw [hd] at hlast; cases hlast
    | some d => exact ⟨d, rfl, by rwa [hd] at hlast⟩
  · rw [tidyString, hlist, tidy_of_spaced (spaced_tidy_write h false) hchain, ← hlist,
      String.ofList_toList]

/-- Line breaks and blank leaves in front of inline tags, in text and in values. -/
theorem isTidy_tidyString_of_blank_leaves :
    let n : Node := .element ⟨"p", [("title", "a\n  <s>")]⟩
      [.text "x > y\n", .text "\t ", .element ⟨"mark", [("name", "m \r\n\t2")]⟩ [], .text "\n",
        .element ⟨"sub", []⟩ [.text "\u2003\r  z "], .text " \n", .element ⟨"subtitle", []⟩ []]
    (∀ t ∈ n.tags, t.Named) ∧
      tidyString n.toString =
        "<p title=\"a\n&lt;s&gt;\">x &gt; y <mark name=\"m \r\n2\"/> <sub>\u2003\rz </sub>" ++
          " \n<subtitle/></p>" ∧
      IsTidy (tidyString n.toString).toList ∧
      tidyString (tidyString n.toString) = tidyString n.toString := by
  intro n
  have hnamed : ∀ t ∈ n.tags, t.Named := by decide +kernel
  exact ⟨hnamed, by decide +kernel, isTidy_tidyString n hnamed⟩

/-- Other texts may have to be tidied twice. -/
example :
    let out := tidyString "x <mark\n <s\n<w>"
    out = "x <mark\n<s\n<w>" ∧ tidyString out = "x <mark\n<s <w>" := by
  decide +kernel

end LecturePlan.Markup

import LecturePlan.Proofs.Compile.EndMark
import LecturePlan.Proofs.Compile.Speech
import LecturePlan.Proofs.Rewrite.Audible
/-!
# Speech sections are documents

A speech section is handed to a speech service as a document of its own.  It is cut out of the lecture
in the middle of open elements, tidied by its characters, and never read by the program itself.  This
module proves that it can be read: the content of every speech section is well-formed, its root is
`speak` without attributes, and there is text in it that is not white space (`documents_traverse`).

The invariant of the walk (`Ledger.Documents`) speaks of the places between two utterances.  If there
is text in the content there, some of it is not blank; and since the fragments of an utterance add to
the content and do nothing else (`collects_fragment`), no section ends within one.
-/

namespace LecturePlan

open LecturePlan.Markup LecturePlan.Rewrite LecturePlan.Text

/-! ## 1. Content that can be written -/

/-- The root of all documents. -/
def speakTag : Tag := ⟨"speak", []⟩

mutual

/-- The characters of a node are those of its leaves. -/
theorem charsNode_eq_leaves (around : List Tag) : ∀ n : Node,
    charsNode n = (n.leaves around).flatMap fun leaf => leaf.2.toList
  | .text s => by rw [charsNode, Node.leaves, List.flatMap_singleton]
  | .element tag children => charsAll_eq_leaves (tag :: around) children

theorem charsAll_eq_leaves (around : List Tag) : ∀ ns : List Node,
    charsAll ns = (leavesAll around ns).flatMap fun leaf => leaf.2.toList
  | [] => rfl
  | n :: ns => by
    rw [charsAll, leavesAll, List.flatMap_append, charsNode_eq_leaves around n,
      charsAll_eq_leaves around ns]

end

namespace Content

/-- The characters of all text that has been collected. -/
def chars (c : Content) : List Char := c.leaves.flatMap fun leaf => leaf.2.toList

/-- **A content that can be written as a document.** -/
structure Readable (c : Content) : Prop where
  chain : ∀ e ∈ c.chain, e.Readable
  root : c.tree.tag = speakTag

theorem charsAll_tree (c : Content) : charsAll c.tree.children = c.chars := by
  rw [charsAll_eq_leaves [c.tree.tag], chars, ← leaves_tree, Element.leaves]

/-- The root is the outermost of the open elements. -/
theorem getLast?_tags (c : Content) : c.tags.getLast? = some c.tree.tag := by
  obtain ⟨inner, outer⟩ := c
  induction outer generalizing inner with
  | nil => rfl
  | cons e es ih => exact ih (appendTo e inner.toNode)

theorem readable_appendTo {e : Element} {n : Node} (he : e.Readable) (hn : n.Readable) :
    (appendTo e n).Readable :=
  ⟨he.1, readableAll_append.mpr ⟨he.2, hn, trivial⟩⟩

namespace Readable

variable {c : Content}

theorem tree (h : c.Readable) : c.tree.Readable := by
  have hfold : ∀ (outer : List Element) (inner : Element), inner.Readable →
      (∀ e ∈ outer, e.Readable) →
        (outer.foldl (fun e around => appendTo around e.toNode) inner).Readable := by
    intro outer
    induction outer with
    | nil => exact fun inner hinner _ => hinner
    | cons e es ih =>
      intro inner hinner houter
      obtain ⟨he, hes⟩ := List.forall_mem_cons.mp houter
      exact ih _ (readable_appendTo he hinner) hes
  obtain ⟨hinner, houter⟩ := List.forall_mem_cons.mp h.chain
  exact hfold c.outer c.inner hinner houter

/-- The root stays if the open elements do. -/
theorem root_of_tags (h : c.Readable) {c' : Content} (htags : c'.tags = c.tags) :
    c'.tree.tag = speakTag := by
  have hlast : some c'.tree.tag = some c.tree.tag := by
    rw [← getLast?_tags, ← getLast?_tags, htags]
  rw [Option.some.inj hlast, h.root]

theorem addText (h : c.Readable) (s : String) : (c.addText s).Readable where
  chain := by
    obtain ⟨hinner, houter⟩ := List.forall_mem_cons.mp h.chain
    exact List.forall_mem_cons.mpr ⟨readable_appendTo hinner trivial, houter⟩
  root := h.root_of_tags (tags_addText c s)

theorem openTag (h : c.Readable) {t : Tag} (ht : t.Readable) : (c.openTag t).Readable where
  chain := List.forall_mem_cons.mpr ⟨⟨ht, trivial⟩, h.chain⟩
  root := by
    have hlast : some (c.openTag t).tree.tag = some c.tree.tag := by
      rw [← getLast?_tags, ← getLast?_tags, tags_openTag]
      exact List.getLast?_cons_cons
    rw [Option.some.inj hlast, h.root]

theorem close (h : c.Readable) : c.close.Readable := by
  obtain ⟨inner, outer⟩ := c
  cases outer with
  | nil => exact h
  | cons e es =>
    obtain ⟨hinner, houter⟩ := List.forall_mem_cons.mp h.chain
    obtain ⟨he, hes⟩ := List.forall_mem_cons.mp houter
    exact ⟨List.forall_mem_cons.mpr ⟨readable_appendTo he hinner, hes⟩, h.root⟩

theorem reset (h : c.Readable) : c.reset.Readable where
  chain := by
    intro e he
    have hchain : c.reset.chain = c.chain.map clear := rfl
    rw [hchain] at he
    obtain ⟨e', he', rfl⟩ := List.mem_map.mp he
    exact ⟨(h.chain e' he').1, trivial⟩
  root := h.root_of_tags (tags_reset c)

end Readable

@[simp] theorem chars_addText (c : Content) (s : String) :
    (c.addText s).chars = c.chars ++ s.toList := by
  rw [chars, leaves_addText, List.flatMap_append, List.flatMap_singleton, chars]

@[simp] theorem chars_openTag (c : Content) (t : Tag) : (c.openTag t).chars = c.chars := by
  rw [chars, leaves_openTag, chars]

@[simp] theorem chars_close (c : Content) : c.close.chars = c.chars := by
  rw [chars, leaves_close, chars]

end Content

/-! ## 2. Fragments are collected -/

namespace Progress

variable {ρ : Type} [VoiceRegistry ρ]

/-- Visiting a node does nothing but collect it. -/
def Collects (ρ : Type) [VoiceRegistry ρ] (s : Scene) (n : Node) : Prop :=
  ∀ p : Progress ρ, p.ended = false → p.content.Readable →
    ∃ c, p.visit s n = { p with content := c } ∧ c.Readable ∧
      c.chars = p.content.chars ++ charsNode n

theorem collects_text (s : Scene) (text : String) : Collects ρ s (.text text) := by
  intro p he hc
  exact ⟨_, visit_of_text he text, hc.addText text, Content.chars_addText _ _⟩

/-- Nodes that are collected one by one are collected. -/
theorem visitAll_of_collects {s : Scene} {ns : List Node} (h : ∀ n ∈ ns, Collects ρ s n) :
    ∀ p : Progress ρ, p.ended = false → p.content.Readable →
      ∃ c, p.visitAll s ns = { p with content := c } ∧ c.Readable ∧
        c.chars = p.content.chars ++ charsAll ns := by
  induction ns with
  | nil => exact fun p _ hc => ⟨p.content, rfl, hc, (List.append_nil _).symm⟩
  | cons n ns ih =>
    intro p he hc
    obtain ⟨hn, hns⟩ := List.forall_mem_cons.mp h
    obtain ⟨c, hvisit, hc', hchars⟩ := hn p he hc
    obtain ⟨c', hvisits, hc'', hchars'⟩ := ih hns { p with content := c } he hc'
    refine ⟨c', ?_, hc'', ?_⟩
    · rw [visitAll, hvisit, hvisits]
    · rw [hchars', hchars, charsAll, List.append_assoc]

/-- So is an element that does not split, with children that are. -/
theorem collects_element {s : Scene} {tag : Tag} {children : List Node} (ht : tag.Readable)
    (hd : isDeclaration tag.name = false) (hs : isSplitting tag.name = false)
    (h : ∀ n ∈ children, Collects ρ s n) : Collects ρ s (.element tag children) := by
  intro p he hc
  obtain ⟨c, hvisits, hc', hchars⟩ := visitAll_of_collects h
    { p with content := p.content.openTag tag } he (hc.openTag ht)
  refine ⟨c.close, ?_, hc'.close, ?_⟩
  · rw [visit_of_plain children he hd hs, hvisits]
  · rw [Content.chars_close, hchars, Content.chars_openTag, charsNode]

/-- **A fragment is collected**: no section ends within an utterance. -/
theorem collects_fragment (s : Scene) {n : Node} (h : Fragment n) : Collects ρ s n := by
  cases h with
  | text text => exact collects_text s text
  | @spoken tag ns hspoken htag htext =>
    obtain ⟨hd, hs⟩ : isDeclaration tag.name = false ∧ isSplitting tag.name = false := by
      simp only [isSpokenForm, Bool.or_eq_true, beq_iff_eq] at hspoken
      rcases hspoken with hname | hname <;> rw [hname] <;> decide
    refine collects_element htag hd hs fun n hn => ?_
    cases n with
    | text text => exact collects_text s text
    | element tag children => cases htext _ hn
  | pause ms =>
    exact collects_element (readable_pause ms).1 rfl rfl fun n hn => absurd hn List.not_mem_nil

end Progress

/-! ## 3. The books hold documents -/

/-- What is written of a tree that can be read, and has text that is not white space. -/
def IsDocument (content : String) : Prop :=
  ∃ e : Element, e.Readable ∧ e.tag = speakTag ∧ allBlank (charsAll e.children) = false ∧
    content = tidyString e.toString

/-- **A ledger between two utterances.** -/
structure Ledger.Documents (l : Ledger) : Prop where
  content : l.content.Readable
  /-- What waits for the end of the section is not blank. -/
  heard : l.content.hasText = true → allBlank l.content.chars = false
  sections : ∀ text ∈ l.sections.filterMap Section.content?, IsDocument text

namespace Ledger.Documents

variable {l : Ledger}

theorem congr {l' : Ledger} (h : l.Documents) (hc : l'.content = l.content)
    (hs : l'.sections = l.sections) : l'.Documents :=
  ⟨hc ▸ h.content, hc ▸ h.heard, hs ▸ h.sections⟩

theorem openTag (h : l.Documents) {t : Tag} (ht : t.Readable) :
    Documents { l with content := l.content.openTag t } where
  content := h.content.openTag ht
  heard htext := by
    rw [Content.chars_openTag]
    exact h.heard ((Content.hasText_openTag _ _).symm.trans htext)
  sections := h.sections

theorem close (h : l.Documents) : Documents { l with content := l.content.close } where
  content := h.content.close
  heard htext := by
    rw [Content.chars_close]
    exact h.heard ((Content.hasText_close _).symm.trans htext)
  sections := h.sections

/-- Without text nothing waits. -/
theorem reset (h : l.Documents) : Documents { l with content := l.content.reset } where
  content := h.content.reset
  heard htext := by
    rw [Content.hasText_reset] at htext
    cases htext
  sections := h.sections

/-- What waits becomes a document. -/
theorem add_speech (h : l.Documents) (ht : l.content.hasText = true) (frame : Frame)
    (voice : String) : (l.add (.speech frame voice l.content.render)).Documents where
  content := h.content
  heard := h.heard
  sections := by
    have hdocument : IsDocument l.content.render :=
      ⟨l.content.tree, h.content.tree, h.content.root,
        (Content.charsAll_tree _).symm ▸ h.heard ht, Content.render_eq _⟩
    rw [add, List.filterMap_append]
    refine List.forall_mem_append.mpr ⟨h.sections, ?_⟩
    exact List.forall_mem_cons.mpr ⟨hdocument, fun _ hmem => absurd hmem List.not_mem_nil⟩

theorem add_clip (h : l.Documents) {kind : SectionKind}
    (hkind : (⟨l.nextId, kind⟩ : Section).content? = none) : (l.add kind).Documents where
  content := h.content
  heard := h.heard
  sections := by
    have hnone : [(⟨l.nextId, kind⟩ : Section)].filterMap Section.content? = [] :=
      List.filterMap_cons_none hkind
    rw [add, List.filterMap_append, hnone, List.append_nil]
    exact h.sections

theorem enter (h : l.Documents) (d : Declarations) (t : Tag) : (l.enter d t).Documents := by
  unfold Ledger.enter
  cases t.mark? with
  | none => exact h
  | some m =>
    rw [Option.elim_some, setMark]
    split
    · exact h
    · split
      · exact ⟨h.reset.content, h.reset.heard, fun _ hmem => absurd hmem List.not_mem_nil⟩
      · exact h.congr rfl rfl

end Ledger.Documents

/-! ## 4. The walk over audible siblings -/

namespace Progress

variable {ρ : Type}

theorem documents_flush {p : Progress ρ} (h : p.ledger.Documents) : p.flush.ledger.Documents := by
  rcases ledger_flush p with ⟨-, hl⟩ | ⟨-, ht, hl⟩
  · rw [hl]
    exact h
  · rw [hl]
    exact (h.add_speech ht p.frame p.voice).reset

theorem documents_clip (s : Scene) (t : Tag) {p : Progress ρ} (h : p.ledger.Documents) :
    (p.clip s t).ledger.Documents := by
  rcases ledger_clip s t p with hl | ⟨kind, hkind, hl⟩
  · rw [hl]
    exact h
  · rw [hl]
    exact h.add_clip hkind

variable [VoiceRegistry ρ]

theorem visitAll_append (s : Scene) (ms ns : List Node) (p : Progress ρ) :
    p.visitAll s (ms ++ ns) = (p.visitAll s ms).visitAll s ns := by
  induction ms generalizing p with
  | nil => rfl
  | cons m ms ih => rw [List.cons_append, visitAll, visitAll, ih]

theorem documents_enter (s : Scene) (t : Tag) {p : Progress ρ} (h : p.ledger.Documents) :
    (p.enter s t).ledger.Documents := by
  rw [ledger_enter]
  exact h.enter _ _

/-- An utterance leaves text behind that is not blank. -/
theorem documents_utterance (s : Scene) {ns : List Node} (hns : Utterance ns) {p : Progress ρ}
    (h : p.ledger.Documents) : (p.visitAll s ns).ledger.Documents := by
  rcases Bool.eq_false_or_eq_true p.ended with he | he
  · rw [visitAll_of_ended he]
    exact h
  · obtain ⟨c, hvisits, hc, hchars⟩ :=
      visitAll_of_collects (fun n hn => collects_fragment s (hns.fragments n hn)) p he h.content
    rw [hvisits]
    refine ⟨hc, fun _ => ?_, h.sections⟩
    have hheard : allBlank c.chars = false := by
      rw [hchars, allBlank_append, hns.heard, Bool.and_false]
    exact hheard

/-- An element keeps what its children keep. -/
theorem documents_element (s : Scene) {tag : Tag} {children : List Node} (ht : tag.Readable)
    (hchildren : ∀ p : Progress ρ, p.ledger.Documents → (p.visitAll s children).ledger.Documents)
    {p : Progress ρ} (h : p.ledger.Documents) :
    (p.visit s (.element tag children)).ledger.Documents := by
  rcases Bool.eq_false_or_eq_true p.ended with he | he
  · rw [visit_of_ended he]
    exact h
  have hflush : p.flush.ledger.Documents := documents_flush h
  cases tag.kind with
  | declaration hd =>
    rw [visit_of_declaration children hd]
    exact h
  | plain hd hs =>
    rw [visit_of_plain children he hd hs]
    exact (hchildren { p with content := p.content.openTag tag } (h.openTag ht)).close
  | clip hd hs hc =>
    rw [visit_of_clip children he hd hs hc]
    exact documents_clip s tag hflush
  | scope hd hs hc =>
    rw [visit_of_scope children he hd hs hc]
    have henter := documents_enter s tag hflush
    dsimp only
    split
    · exact henter.congr rfl rfl
    · exact (documents_flush (hchildren _ henter)).congr rfl rfl

/-- **Over audible siblings the books hold documents.** -/
theorem documents_visitAll (s : Scene) {ns : List Node} (h : Audible ns) :
    ∀ p : Progress ρ, p.ledger.Documents → (p.visitAll s ns).ledger.Documents := by
  induction h with
  | nil => exact fun p hp => hp
  | utterance hu _ ih =>
    intro p hp
    rw [visitAll_append]
    exact ih _ (documents_utterance s hu hp)
  | element ht _ _ ih ih' =>
    intro p hp
    rw [visitAll]
    exact ih' _ (documents_element s ht ih hp)

end Progress

/-! ## 5. Documents are read -/

/-- A document is read as a tree with text. -/
theorem IsDocument.read {content : String} (h : IsDocument content) :
    ∃ e : Element, Element.ofString content = .ok e ∧ e.tag = speakTag ∧
      containsTextAny e.children = true ∧ allBlank (charsAll e.children) = false := by
  obtain ⟨e, hreadable, htag, hheard, rfl⟩ := h
  have htext : allBlank (charsAll e.tidied.settled.children) = false :=
    (allBlank_settled_tidied e).trans hheard
  refine ⟨_, ofString_tidyString hreadable, ?_, containsTextAny_of_not_blank htext, htext⟩
  have htidied : e.tidied.settled.tag = e.tag.tidied := rfl
  rw [htidied, htag]
  rfl

section Traverse

variable {ρ : Type} [VoiceRegistry ρ]

/-- **Every speech section of a lecture is a document.**  If a script is read as a lecture whose names
can be told from markup, then the content of each of its speech sections is read as an element `speak`
without attributes, in which there is text that is not all white space. -/
theorem documents_traverse (script : String) (lecture : Element)
    (hread : Element.ofString script = .ok lecture) (hlegible : lecture.Legible)
    (d : Declarations) (c : Config) (s : Scene) (registry : ρ) :
    ∀ sec ∈ (traverse s c (speakRoot (rewriteLecture lecture d c).1) registry).plan.sections,
      ∀ content, sec.content? = some content →
        ∃ e : Element, Element.ofString content = .ok e ∧ e.tag = ⟨"speak", []⟩ ∧
          containsTextAny e.children = true ∧ allBlank (charsAll e.children) = false := by
  intro sec hsec content hcontent
  have hnormal : lecture.Normal := ⟨hlegible, whole_of_read hread⟩
  have hstart : (Progress.start s c speakTag registry).ledger.Documents := by
    refine ⟨⟨fun e he => ?_, rfl⟩, fun htext => ?_, fun _ hmem => absurd hmem List.not_mem_nil⟩
    · rw [List.mem_singleton.mp he]
      exact ⟨readable_of_keys (by decide) (by simp) List.nodup_nil, trivial⟩
    · cases htext
  have hdone := Progress.documents_flush
    (Progress.documents_visitAll s (audible_rewriteLecture hnormal d c) _ hstart)
  exact (hdone.sections content (List.mem_filterMap.mpr ⟨sec, hsec, hcontent⟩)).read

end Traverse

/-- Two words that a lexicon speaks, with a blank between them, and a mark that cuts a paragraph, with
an indented inline tag behind it. -/
theorem documents_traverse_of_spoken_words :
    let lecture : Element := ⟨⟨"lecture", []⟩,
      [.element ⟨"lookup", [("ref", "db")]⟩ [.text "SQL SQL"],
        .element ⟨"p", []⟩ [.element ⟨"mark", [("name", "m")]⟩ [], .text "Q & A\n  ",
          .element ⟨"emphasis", [("level", "<\n  b>")]⟩ [.text "on"]]]⟩
    let d : Declarations :=
      { Declarations.empty with lexicons := [⟨"db", none, [⟨"SQL", .alias, "sequel"⟩]⟩] }
    let s : Scene := ⟨d, Path.ofString "/", fun _ => false, false⟩
    let registry : String → RegistryAnswer := fun _ => .ok (some .other)
    let sections := (traverse s .standard (speakRoot (rewriteLecture lecture d .standard).1)
      registry).plan.sections
    Element.ofString lecture.toString = .ok lecture ∧ lecture.Legible ∧
      sections.map Section.content? =
        [some "<speak><sub alias=\"sequel\">SQL</sub> <sub alias=\"sequel\">SQL</sub><p/></speak>",
          some "<speak><p>Q &amp; A <emphasis level=\"&lt;\nb&gt;\">on</emphasis></p></speak>"] ∧
      ∀ sec ∈ sections, ∀ content, sec.content? = some content →
        ∃ e : Element, Element.ofString content = .ok e ∧ e.tag = ⟨"speak", []⟩ ∧
          containsTextAny e.children = true ∧ allBlank (charsAll e.children) = false := by
  intro lecture d s registry sections
  have hlegible : lecture.Legible :=
    ⟨by decide, ⟨by decide, trivial, trivial⟩, ⟨by decide, ⟨by decide, trivial⟩, trivial,
      ⟨by decide, trivial, trivial⟩, trivial⟩, trivial⟩
  have hwhole : lecture.Whole :=
    ⟨by decide, ⟨by decide, rfl, rfl, trivial⟩, rfl, ⟨by decide, ⟨by decide, trivial⟩, rfl, rfl, rfl,
      ⟨by decide, rfl, rfl, trivial⟩, rfl, trivial⟩, rfl, trivial⟩
  have hread := ofString_toString_of_normal ⟨hlegible, hwhole⟩
  exact ⟨hread, hlegible, by decide +kernel,
    documents_traverse lecture.toString lecture hread hlegible d .standard s registry⟩

end LecturePlan

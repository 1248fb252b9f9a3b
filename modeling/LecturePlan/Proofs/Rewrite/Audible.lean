import LecturePlan.Compile.Walk
import LecturePlan.Proofs.Markup.Tidied
import LecturePlan.Proofs.Rewrite.KeepsWording
import LecturePlan.Proofs.Rewrite.Passes
/-!
# Text that can be heard

A script has no blank text, but rewriting cuts text into pieces, and a piece may well be blank: the
space between two words that are spoken by a lexicon, or the line in front of a pause.  A blank piece
must not be left alone in a section.  It is not, because the pieces of one text stay together and what
stands between them does not split.

`Audible` says so of siblings: every text in them belongs to an `Utterance`, a run of fragments that is
not blank as a whole.  What is read from a script is audible (`audible_of_normal`), and rewriting keeps
it (`audible_rewriteLecture`).

The last section is about documents: tidying and reading drop white space, so what was not blank before
is not blank after (`allBlank_settled_tidied`).
-/

namespace LecturePlan.Rewrite

open LecturePlan.Markup LecturePlan.Text

/-! ## 1. Utterances -/

/-- A part of one text that has been rewritten: text as it is written, text that is spoken in another
way, or a pause. -/
inductive Fragment : Node → Prop
  | text (s : String) : Fragment (.text s)
  | spoken {tag : Tag} {ns : List Node} : isSpokenForm tag.name = true → tag.Readable →
      (∀ n ∈ ns, n.isText = true) → Fragment (.element tag ns)
  | pause (ms : Nat) : Fragment (pause ms)

/-- Siblings that have been made of one text, which is not blank. -/
structure Utterance (ns : List Node) : Prop where
  fragments : ∀ n ∈ ns, Fragment n
  heard : allBlank (charsAll ns) = false

/-- **Siblings in which every text can be heard**, there and below. -/
inductive Audible : List Node → Prop
  | nil : Audible []
  | utterance {ns rest : List Node} : Utterance ns → Audible rest → Audible (ns ++ rest)
  | element {tag : Tag} {children rest : List Node} : tag.Readable → Audible children →
      Audible rest → Audible (.element tag children :: rest)

theorem Audible.append {ms ns : List Node} (hm : Audible ms) (hn : Audible ns) :
    Audible (ms ++ ns) := by
  induction hm with
  | nil => exact hn
  | utterance hu _ ih =>
    rw [List.append_assoc]
    exact .utterance hu ih
  | element htag hchildren _ _ ih => exact .element htag hchildren ih

theorem Utterance.audible {ns : List Node} (h : Utterance ns) : Audible ns :=
  List.append_nil ns ▸ Audible.utterance h .nil

/-- A text that is not blank can be heard by itself. -/
theorem utterance_text {s : String} (h : allBlank s.toList = false) : Utterance [.text s] where
  fragments n hn := by
    rw [List.mem_singleton.mp hn]
    exact .text s
  heard := by
    rw [charsAll_singleton]
    exact h

mutual

/-- What is read from a script is audible in front of what is. -/
theorem audible_cons_of_normal {rest : List Node} (hrest : Audible rest) : ∀ {n : Node},
    n.Legible → n.Whole → Audible (n :: rest)
  | .text _, _, hs => .utterance (utterance_text hs) hrest
  | .element _ _, ⟨htag, hlegible⟩, ⟨hdistinct, hwhole⟩ =>
    .element ⟨htag, hdistinct⟩ (audible_of_normal hlegible hwhole) hrest

/-- **What is read from a script is audible.** -/
theorem audible_of_normal : ∀ {ns : List Node}, LegibleAll ns → WholeAll ns → Audible ns
  | [], _, _ => .nil
  | _ :: _, ⟨hn, hns⟩, ⟨hwhole, _, hwholes⟩ =>
    audible_cons_of_normal (audible_of_normal hns hwholes) hn hwhole

end

/-! ## 2. Tags that rewriting writes -/

theorem readable_of_keys {name : String} {as : List Attribute} (hname : IsName name.toList)
    (hkeys : ∀ key ∈ as.map Prod.fst, IsName key.toList) (hdistinct : (as.map Prod.fst).Nodup) :
    (⟨name, as⟩ : Tag).Readable :=
  ⟨⟨hname, fun _ ha => hkeys _ (List.mem_map_of_mem ha)⟩, hdistinct⟩

theorem readable_spokenTag (l : Lexeme) (alphabet : Option String) :
    (spokenTag l alphabet).Readable := by
  unfold spokenTag
  split
  · exact readable_of_keys (by decide) (by simp; decide) (by simp)
  · split
    · exact readable_of_keys (by decide) (by simp; decide) (by simp)
    · exact readable_of_keys (by decide) (by simp; decide) (by simp)

theorem readable_renameToken {t : Tag} (h : t.Readable) : (renameToken t).Readable := by
  unfold renameToken
  split
  · refine readable_of_keys (by decide) (fun key hkey => ?_) h.distinct
    obtain ⟨a, ha, rfl⟩ := List.mem_map.mp hkey
    exact h.legible.keys a ha
  · exact h

theorem readable_pause (ms : Nat) : (pause ms).Readable :=
  ⟨readable_of_keys (by decide) (by simp; decide) (by simp), trivial⟩

theorem audible_pause (ms : Nat) : Audible [pause ms] :=
  .element (readable_pause ms).1 .nil .nil

/-! ## 3. Pronunciations, tokens and slides -/

/-- The words of a text that a lexicon speaks stay with the rest of the text. -/
theorem utterance_applyLexicons {s : String} (h : allBlank s.toList = false)
    (active : List Lexicon) : Utterance (applyLexicons s active) where
  fragments n hn := by
    rcases (spelled_applyLexicons s active).2 n hn with ⟨t, rfl⟩ | ⟨l, alphabet, rfl⟩
    · exact .text t
    · refine .spoken (isSpokenForm_spokenTag l alphabet) (readable_spokenTag l alphabet) ?_
      intro m hm
      rw [List.mem_singleton.mp hm]
      rfl
  heard := by
    rw [(rewritten_applyLexicons s active).charsAll_eq, charsAll_singleton]
    exact h

mutual

/-- What the walk makes of a node of a script is audible. -/
theorem audible_rewriteNode (r : Rules) : ∀ {n : Node} (active : List Lexicon)
    (spoken paused : Bool), n.Legible → n.Whole →
      Audible (rewriteNode r active spoken paused n).1
  | .text s, active, spoken, paused, _, hs => by
    rw [rewriteNode]
    dsimp only
    split
    · exact (utterance_text hs).audible
    · exact (utterance_applyLexicons hs active).audible
  | .element tag children, active, spoken, paused, ⟨htag, hlegible⟩, ⟨hdistinct, hwhole⟩ => by
    rw [rewriteNode]
    split
    · exact .element ⟨htag, hdistinct⟩ (audible_of_normal hlegible hwhole) .nil
    · split
      · exact audible_rewriteAll r _ spoken hlegible hwhole
      · have hkept := audible_rewriteAll r active (spoken || isSpokenForm (renameToken tag).name)
          hlegible hwhole
        refine .element (readable_renameToken ⟨htag, hdistinct⟩) hkept ?_
        split
        · exact audible_pause _
        · exact .nil

/-- So is what it makes of siblings. -/
theorem audible_rewriteAll (r : Rules) : ∀ {ns : List Node} (active : List Lexicon)
    (spoken : Bool), LegibleAll ns → WholeAll ns → Audible (rewriteAll r active spoken ns).1
  | [], active, spoken, _, _ => by
    rw [rewriteAll]
    exact .nil
  | n :: ns, active, spoken, ⟨hn, hns⟩, ⟨hwhole, _, hwholes⟩ => by
    rw [rewriteAll]
    exact (audible_rewriteNode r active spoken _ hn hwhole).append
      (audible_rewriteAll r active spoken hns hwholes)

end

/-! ## 4. Pauses at line breaks -/

/-- A fragment is cut into fragments. -/
theorem fragment_pauseNode (ms : Nat) {n : Node} (h : Fragment n) :
    ∀ m ∈ pauseNode ms n, Fragment m := by
  cases h with
  | text s =>
    have hlines : ∀ ls : List (List Char), ∀ m ∈ joinLines ms ls, Fragment m := by
      intro ls
      induction ls with
      | nil => exact fun m hm => absurd hm List.not_mem_nil
      | cons l ls ih =>
        cases ls with
        | nil =>
          intro m hm
          rw [List.mem_singleton.mp hm]
          exact .text _
        | cons l' ls =>
          exact List.forall_mem_cons.mpr ⟨.text _, List.forall_mem_cons.mpr ⟨.pause ms, ih⟩⟩
    rw [pauseNode]
    exact hlines _
  | @spoken tag ns hspoken htag htext =>
    intro m hm
    rw [pauseNode, hspoken, Bool.true_or, if_pos rfl] at hm
    rw [List.mem_singleton.mp hm]
    exact .spoken hspoken htag htext
  | pause ms' =>
    intro m hm
    rw [List.mem_singleton.mp hm]
    exact .pause ms'

/-- The lines of an utterance are one. -/
theorem Utterance.pauseAll {ns : List Node} (h : Utterance ns) (ms : Nat) :
    Utterance (pauseAll ms ns) where
  fragments := by
    have hfragments := h.fragments
    clear h
    induction ns with
    | nil => exact fun m hm => absurd hm List.not_mem_nil
    | cons n ns ih =>
      obtain ⟨hn, hns⟩ := List.forall_mem_cons.mp hfragments
      exact List.forall_mem_append.mpr ⟨fragment_pauseNode ms hn, ih hns⟩
  heard := by
    rw [(rewritten_pauseAll ms ns).charsAll_eq]
    exact h.heard

theorem Audible.pauseAll {ns : List Node} (h : Audible ns) (ms : Nat) :
    Audible (pauseAll ms ns) := by
  induction h with
  | nil => exact .nil
  | utterance hu _ ih =>
    rw [pauseAll_append]
    exact .utterance (hu.pauseAll ms) ih
  | @element tag children rest htag hchildren _ ih ih' =>
    rw [Rewrite.pauseAll, pauseNode]
    split
    · exact .element htag hchildren ih'
    · exact .element htag ih ih'

/-- **A lecture that is read and rewritten is audible.** -/
theorem audible_rewriteLecture {lecture : Element} (h : lecture.Normal) (d : Declarations)
    (c : Config) : Audible (rewriteLecture lecture d c).1.children := by
  have hwalk := audible_rewriteAll ⟨d.lexicons, (Pauses.resolve d.settings c).1.afterSlide⟩ [] false
    h.legible.2 h.whole.2
  unfold rewriteLecture
  dsimp only
  split
  · unfold pauseElement
    split
    · exact hwalk
    · exact hwalk.pauseAll _
  · exact hwalk

/-! ## 5. Text of documents -/

theorem allBlank_tidiedLeaf (inline : Bool) (s : List Char) :
    allBlank (charsNode (tidiedLeaf inline s)) = allBlank s := by
  rw [tidiedLeaf, charsNode, String.toList_ofList, allBlank_dropIndent, allBlank_joinEnd]

theorem allBlank_tidiedRun (pending : List Char) (ns : List Node) :
    allBlank (charsAll (tidiedRun pending ns)) = allBlank (pending ++ charsAll ns) := by
  fun_induction tidiedRun pending ns with
  | case1 pending => simp [charsAll, allBlank_tidiedLeaf]
  | case2 pending s ns ih => rw [ih, charsAll, charsNode, List.append_assoc]
  | case3 pending tag children ns ih =>
    simp only [charsAll, charsNode, allBlank_append, allBlank_tidiedLeaf, ih, List.nil_append]

theorem allBlank_gather (pending : List Char) (ns : List Node) :
    allBlank (charsAll (gather pending ns)) = allBlank (pending ++ charsAll ns) := by
  have hleaf : ∀ s, allBlank (charsAll (leafOf s)) = allBlank s := by
    intro s
    cases hs : allBlank s with
    | true => rw [leafOf_of_blank hs]; rfl
    | false => rw [leafOf_of_not_blank hs, charsAll_singleton, charsNode, String.toList_ofList, hs]
  fun_induction gather pending ns with
  | case1 pending => rw [hleaf, charsAll, List.append_nil]
  | case2 pending s ns ih => rw [ih, charsAll, charsNode, List.append_assoc]
  | case3 pending tag children ns ih =>
    simp only [charsAll_append, charsAll, charsNode, allBlank_append, hleaf, ih, List.nil_append]

mutual

/-- Tidying a node loses nothing but white space. -/
theorem allBlank_tidied : ∀ n : Node, allBlank (charsNode n.tidied) = allBlank (charsNode n)
  | .text _ => rfl
  | .element _ [] => rfl
  | .element _ (n :: ns) => by
    rw [Node.tidied, charsNode, charsNode, allBlank_tidiedRun, List.nil_append, charsAll, charsAll,
      allBlank_append, allBlank_append, allBlank_tidied n, allBlank_tidiedEach ns]

theorem allBlank_tidiedEach : ∀ ns : List Node,
    allBlank (charsAll (tidiedEach ns)) = allBlank (charsAll ns)
  | [] => rfl
  | n :: ns => by
    rw [tidiedEach, charsAll, charsAll, allBlank_append, allBlank_append, allBlank_tidied n,
      allBlank_tidiedEach ns]

end

mutual

/-- So does reading what was written for it. -/
theorem allBlank_settled : ∀ n : Node, allBlank (charsNode n.settled) = allBlank (charsNode n)
  | .text _ => rfl
  | .element _ children => by
    rw [Node.settled, charsNode, charsNode, allBlank_gather, List.nil_append,
      allBlank_settledEach children]

theorem allBlank_settledEach : ∀ ns : List Node,
    allBlank (charsAll (settledEach ns)) = allBlank (charsAll ns)
  | [] => rfl
  | n :: ns => by
    rw [settledEach, charsAll, charsAll, allBlank_append, allBlank_append, allBlank_settled n,
      allBlank_settledEach ns]

end

/-- **A document is as blank as the tree that it was written for.** -/
theorem allBlank_settled_tidied (e : Element) :
    allBlank (charsAll e.tidied.settled.children) = allBlank (charsAll e.children) := by
  have hsettled : allBlank (charsAll e.tidied.settled.children) =
      allBlank (charsAll e.tidied.children) := by
    rw [Element.settled, allBlank_gather, List.nil_append, allBlank_settledEach]
  rw [hsettled]
  have htidied := allBlank_tidied e.toNode
  rwa [← Element.toNode_tidied] at htidied

mutual

/-- What is not blank contains text. -/
theorem containsText_of_not_blank : ∀ {n : Node}, allBlank (charsNode n) = false →
    n.containsText = true
  | .text _, _ => rfl
  | .element _ _, h => containsTextAny_of_not_blank h

theorem containsTextAny_of_not_blank : ∀ {ns : List Node}, allBlank (charsAll ns) = false →
    containsTextAny ns = true
  | [], h => by cases h
  | n :: ns, h => by
    rw [charsAll, allBlank_append, Bool.and_eq_false_iff] at h
    rw [containsTextAny, Bool.or_eq_true]
    exact h.imp containsText_of_not_blank containsTextAny_of_not_blank

end

end LecturePlan.Rewrite

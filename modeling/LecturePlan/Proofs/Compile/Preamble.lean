import LecturePlan.Proofs.Compile.EndMark
import LecturePlan.Proofs.Compile.SideBySide
import LecturePlan.Proofs.Compile.Starts
import Mathlib.Logic.Relation
/-!
# The preamble cannot be heard

What stands in front of the start mark is walked through like the rest, and the start mark throws away what
came of it.  Frames, voices, pages and pools stay, so slides and pictures of the preamble count.  Its words
do not: this module changes the text in front of the first start mark and elements without children that do
not split (`DiffersBefore`), and proves that compiling gives the same result (`compile_eq_of_differsBefore`).

Two walks are compared.  In front of the start mark they agree on all that a restart keeps and on the names
of the marks (`Agree`); a restart makes them the same, and from there they are one walk.  So nothing that a
restart forgets may ever flow into what it keeps: this is what the step lemmas say, each for one operation.

The start mark is set at most once.  A later mark of its name is reported and does nothing else
(`CountsStarts`).
-/

namespace LecturePlan

open LecturePlan.Markup

/-! ## 1. Changes in front of a mark -/

/-- Whether a node is text, or an element without children that does not split. -/
def Markup.Node.isSlight : Node → Bool
  | .text _ => true
  | .element tag children => children.isEmpty && !isSplitting tag.name

/-- **One change in front of the first mark of a name**, among nodes that stand side by side. -/
inductive ChangedBefore (name : Option String) : List Node → List Node → Prop
  /-- A slight node is put in. -/
  | insert {n : Node} (ns : List Node) : n.isSlight = true → ChangedBefore name ns (n :: ns)
  /-- The change is in an element, which is not the mark. -/
  | inside {tag : Tag} {children children' : List Node} (ns : List Node) :
    tag.isMark name = false → ChangedBefore name children children' →
      ChangedBefore name (.element tag children :: ns) (.element tag children' :: ns)
  /-- What stands in a declaration or a clip is changed in any way. -/
  | unseen {tag : Tag} {children children' : List Node} (ns : List Node) :
    (isDeclaration tag.name || isClip tag.name) = true →
      ChangedBefore name (.element tag children :: ns) (.element tag children' :: ns)
  /-- The change is behind a node in which the walk comes across no such mark. -/
  | behind {n : Node} {ns ns' : List Node} :
    n.cutBehind? name = none → ChangedBefore name ns ns' → ChangedBefore name (n :: ns) (n :: ns')

/-- **Two documents differ only in front of the first mark of a name**, and only in slight nodes that
were put in, taken out or exchanged. -/
def DiffersBefore (name : Option String) : Element → Element → Prop :=
  Relation.EqvGen fun e e' => e.tag = e'.tag ∧ ChangedBefore name e.children e'.children

theorem ChangedBefore.ne_nil {name : Option String} {ns ns' : List Node}
    (h : ChangedBefore name ns ns') : ns' ≠ [] := by
  cases h <;> exact List.cons_ne_nil _ _

/-! ## 2. What a restart forgets -/

variable {ρ : Type}

namespace Progress

theorem restart_addWarnings (p : Progress ρ) (ws : List Warning) :
    (p.addWarnings ws).restart = (p.restart.addWarnings ws).restart := by
  simp [restart, addWarnings, tell]

/-- The end of a section leaves what a restart keeps. -/
theorem restart_flush (p : Progress ρ) : p.flush.restart = p.restart := by
  rcases flush_cases p with ⟨-, h⟩ | ⟨-, -, h⟩ <;> rw [h]
  simp [restart, addSection]

theorem restart_addVideo (s : Scene) (t : Tag) (path : Path) (window : ClipBound × ClipBound)
    (p : Progress ρ) :
    (p.addVideo s t path window).restart = (p.restart.addVideo s t path window).restart := by
  simp [addVideo_eq, restart, addSection, addWarnings, tell]

theorem restart_addAudio (t : Tag) (path : Path) (window : ClipBound × ClipBound) (p : Progress ρ) :
    (p.addAudio t path window).restart = (p.restart.addAudio t path window).restart := by
  simp [addAudio_eq, restart, addSection, addWarnings, tell]

/-- What a clip does to what a restart keeps depends on that alone. -/
theorem restart_clip (s : Scene) (t : Tag) (p : Progress ρ) :
    (p.clip s t).restart = (p.restart.clip s t).restart := by
  unfold clip
  split
  · exact restart_addWarnings p _
  · dsimp only
    split
    · exact restart_addWarnings p _
    · split
      · simp [restart, warn, addWarnings, tell]
      · split
        · rw [restart_addVideo, restart_addWarnings, ← restart_addVideo]
        · rw [restart_addAudio, restart_addWarnings, ← restart_addAudio]

theorem restart_voiceTag [VoiceRegistry ρ] (t : Tag) (p : Progress ρ) :
    (p.voiceTag t).restart = (p.restart.voiceTag t).restart := by
  have hregistry : p.restart.registry = p.registry := rfl
  unfold voiceTag
  split
  · exact restart_addWarnings p _
  · dsimp only
    rw [hregistry]
    split <;> simp [restart, warn, addWarnings, tell]

theorem restart_image (s : Scene) (t : Tag) (p : Progress ρ) :
    (p.image s t).restart = (p.restart.image s t).restart := by
  unfold image
  split
  · exact restart_addWarnings p _
  · dsimp only
    split <;> simp [restart, warn, addWarnings, tell]

theorem restart_slide (s : Scene) (t : Tag) (p : Progress ρ) :
    (p.slide s t).restart = (p.restart.slide s t).restart := by
  have htarget : slideTarget s t p.restart = slideTarget s t p := rfl
  unfold slide
  rw [htarget]
  split <;> simp [restart, warn, addWarnings, tell, showPage]

/-- So with a mark that is not the start mark. -/
theorem restart_acceptMark {s : Scene} {name : String} (h : s.declarations.startMark ≠ some name)
    (title : Option String) (p : Progress ρ) :
    (p.acceptMark s name title).restart = (p.restart.acceptMark s name title).restart := by
  by_cases he : s.declarations.endMark = some name <;>
    simp [acceptMark, h, he, setMark, restart, tell]

@[simp] theorem restart_restart (p : Progress ρ) : p.restart.restart = p.restart := by
  simp [restart]

/-! ### Which marks are set -/

theorem contains_acceptMark {s : Scene} {name : String} (h : s.declarations.startMark ≠ some name)
    (title : Option String) (p : Progress ρ) (name' : String) :
    (p.acceptMark s name title).plan.marks.contains name' =
      (name' == name || p.plan.marks.contains name') := by
  have hmarks : (p.acceptMark s name title).plan.marks = p.plan.marks.insert name p.nextId := by
    by_cases he : s.declarations.endMark = some name <;>
      simp [acceptMark, h, he, setMark, tell]
  rw [hmarks, Table.contains, Table.get?_insert]
  by_cases hname : name' = name <;> simp [hname, Table.contains]

theorem marks_flush (p : Progress ρ) : p.flush.plan.marks = p.plan.marks := by
  rcases flush_cases p with ⟨-, h⟩ | ⟨-, -, h⟩ <;> rw [h]
  rfl

theorem marks_clip (s : Scene) (t : Tag) (p : Progress ρ) :
    (p.clip s t).plan.marks = p.plan.marks := by
  rcases ledger_clip s t p with h | ⟨kind, -, h⟩
  · exact congrArg Ledger.marks h
  · exact congrArg Ledger.marks h

theorem marks_voiceTag [VoiceRegistry ρ] (t : Tag) (p : Progress ρ) :
    (p.voiceTag t).plan.marks = p.plan.marks := congrArg Ledger.marks (ledger_voiceTag t p)

theorem marks_image (s : Scene) (t : Tag) (p : Progress ρ) :
    (p.image s t).plan.marks = p.plan.marks := congrArg Ledger.marks (ledger_image s t p)

theorem marks_slide (s : Scene) (t : Tag) (p : Progress ρ) :
    (p.slide s t).plan.marks = p.plan.marks := congrArg Ledger.marks (ledger_slide s t p)

end Progress

/-! ## 3. Walks that agree -/

/-- **Two states agree**: they differ at most in what a restart forgets, they have marks of the same
names, and once the start mark has been set they are the same. -/
structure Progress.Agree (start : Option String) (p q : Progress ρ) : Prop where
  kept : p.restart = q.restart
  marks : ∀ name, p.plan.marks.contains name = q.plan.marks.contains name
  same : ∀ name, start = some name → p.plan.marks.contains name = true → p = q

/-- The start mark has not been set. -/
def Progress.Unstarted (start : Option String) (p : Progress ρ) : Prop :=
  ∀ name, start = some name → p.plan.marks.contains name = false

namespace Progress.Agree

variable {s : Scene} {start : Option String} {p q r : Progress ρ}

theorem refl (p : Progress ρ) : p.Agree start p := ⟨rfl, fun _ => rfl, fun _ _ _ => rfl⟩

theorem symm (h : p.Agree start q) : q.Agree start p where
  kept := h.kept.symm
  marks name := (h.marks name).symm
  same name hname hset := (h.same name hname ((h.marks name).trans hset)).symm

theorem trans (h : p.Agree start q) (h' : q.Agree start r) : p.Agree start r where
  kept := h.kept.trans h'.kept
  marks name := (h.marks name).trans (h'.marks name)
  same name hname hset :=
    (h.same name hname hset).trans (h'.same name hname ((h.marks name).symm.trans hset))

theorem unstarted (h : p.Agree start q) (hp : p.Unstarted start) : q.Unstarted start :=
  fun name hname => (h.marks name).symm.trans (hp name hname)

/-- Before the start mark a state agrees with every one that differs in what a restart forgets, if the
marks stay. -/
theorem of_unstarted (hp : p.Unstarted start) (hkept : q.restart = p.restart)
    (hmarks : q.plan.marks = p.plan.marks) : p.Agree start q where
  kept := hkept.symm
  marks name := by rw [hmarks]
  same name hname hset := absurd (hset.symm.trans (hp name hname)) Bool.true_eq_false.mp

/-- An operation that sets no mark, and does to what a restart keeps what depends on that alone. -/
theorem map {f : Progress ρ → Progress ρ} (h : p.Agree start q)
    (hkept : ∀ p, (f p).restart = (f p.restart).restart)
    (hmarks : ∀ p, (f p).plan.marks = p.plan.marks) : (f p).Agree start (f q) where
  kept := by rw [hkept p, hkept q, h.kept]
  marks name := by rw [hmarks, hmarks, h.marks]
  same name hname hset := by rw [h.same name hname (by rwa [hmarks] at hset)]

theorem ended (h : p.Agree start q) : q.ended = p.ended := (congrArg Progress.ended h.kept).symm

theorem voice (h : p.Agree start q) : q.voice = p.voice := (congrArg Progress.voice h.kept).symm

theorem addText (h : p.Agree start q) (text : String) :
    Progress.Agree start { p with content := p.content.addText text }
      { q with content := q.content.addText text } :=
  h.map (f := fun p => { p with content := p.content.addText text })
    (fun p => by simp [restart]) fun _ => rfl

theorem openTag (h : p.Agree start q) (t : Tag) :
    Progress.Agree start { p with content := p.content.openTag t }
      { q with content := q.content.openTag t } :=
  h.map (f := fun p => { p with content := p.content.openTag t })
    (fun p => by simp [restart]) fun _ => rfl

theorem close (h : p.Agree start q) :
    Progress.Agree start { p with content := p.content.close }
      { q with content := q.content.close } :=
  h.map (f := fun p => { p with content := p.content.close })
    (fun p => by
      have hclose := Content.reset_close p.content
      simp only [restart]
      rw [hclose])
    fun _ => rfl

theorem flush (h : p.Agree start q) : p.flush.Agree start q.flush :=
  h.map (f := Progress.flush) (fun p => by rw [restart_flush, restart_flush, restart_restart])
    marks_flush

theorem flush_self (hp : p.Unstarted start) : p.Agree start p.flush :=
  of_unstarted hp (restart_flush p) (marks_flush p)

theorem clip (h : p.Agree start q) (t : Tag) : (p.clip s t).Agree start (q.clip s t) :=
  h.map (restart_clip s t) (marks_clip s t)

/-- The voice in force before a tag is in force again behind it. -/
theorem leave {outer outer' : Progress ρ} (h : p.Agree start q) (houter : outer.Agree start outer') :
    Progress.Agree start { p with voice := outer.voice } { q with voice := outer'.voice } := by
  rw [houter.voice]
  exact h.map (f := fun p => { p with voice := outer.voice }) (fun p => by simp [restart]) fun _ => rfl

/-- The start mark makes states that agree the same, since it goes on from a restart.  Another mark is
set in both. -/
theorem acceptMark (h : p.Agree s.declarations.startMark q) (name : String) (title : Option String) :
    (p.acceptMark s name title).Agree s.declarations.startMark (q.acceptMark s name title) := by
  by_cases hs : s.declarations.startMark = some name
  · have hsame : p.acceptMark s name title = q.acceptMark s name title := by
      unfold Progress.acceptMark
      rw [if_pos hs, if_pos hs, h.kept]
    rw [hsame]
    exact .refl _
  · refine ⟨?_, fun name' => ?_, fun start hstart hset => ?_⟩
    · rw [restart_acceptMark hs, h.kept, ← restart_acceptMark hs]
    · rw [contains_acceptMark hs, contains_acceptMark hs, h.marks]
    · have hne : (start == name) = false := by
        rw [beq_eq_false_iff_ne]
        rintro rfl
        exact hs hstart
      rw [contains_acceptMark hs, hne, Bool.false_or] at hset
      rw [h.same start hstart hset]

/-- A mark is dropped in both states or in none, since its name is taken in both or in none. -/
theorem mark (h : p.Agree s.declarations.startMark q) (t : Tag) :
    (p.mark s t).Agree s.declarations.startMark (q.mark s t) := by
  unfold Progress.mark
  cases t.nonEmptyAttr? "name" with
  | none => exact h.map (restart_addWarnings · _) fun _ => rfl
  | some name =>
    dsimp only
    rw [h.marks name]
    cases q.plan.marks.contains name with
    | true => exact h.map (restart_addWarnings · _) fun _ => rfl
    | false => exact h.acceptMark name _

/-! ### The walk -/

variable [VoiceRegistry ρ]

/-- Every step keeps states in agreement. -/
theorem keptBoth (s : Scene) :
    KeptBoth s fun (p q : Progress ρ) => p.Agree s.declarations.startMark q where
  ended h := h.ended
  text text h := h.addText text
  openTag t h := h.openTag t
  close h := h.close
  flush h := h.flush
  clip t h := h.clip t
  mark t h := h.mark t
  voiceTag t h := h.map (restart_voiceTag t) (marks_voiceTag t)
  image t h := h.map (restart_image s t) (marks_image s t)
  slide t h := h.map (restart_slide s t) (marks_slide s t)
  leave h houter := h.leave houter

theorem visit (n : Node) (h : p.Agree s.declarations.startMark q) :
    (p.visit s n).Agree s.declarations.startMark (q.visit s n) := (keptBoth s).visit n h

theorem visitAll (ns : List Node) (h : p.Agree s.declarations.startMark q) :
    (p.visitAll s ns).Agree s.declarations.startMark (q.visitAll s ns) := (keptBoth s).visitAll ns h

/-- Before the start mark a slight node leaves nothing that a restart keeps. -/
theorem visit_slight {n : Node} (hn : n.isSlight = true) (hp : p.Unstarted start) :
    p.Agree start (p.visit s n) := by
  rcases Bool.eq_false_or_eq_true p.ended with he | he
  · rw [visit_of_ended he]
    exact .refl p
  cases n with
  | text text =>
    rw [visit_of_text he]
    exact of_unstarted hp (by simp [restart]) rfl
  | element tag children =>
    rw [Node.isSlight, Bool.and_eq_true, List.isEmpty_iff, Bool.not_eq_true'] at hn
    obtain ⟨rfl, hs⟩ := hn
    cases hd : isDeclaration tag.name with
    | true =>
      rw [visit_of_declaration [] hd]
      exact .refl p
    | false =>
      rw [visit_of_plain [] he hd hs]
      exact of_unstarted hp (by simp [Progress.visitAll, restart, Content.reset_close_openTag]) rfl

end Progress.Agree

/-! ### Walks through documents that differ -/

theorem any_of_any_upToMark {name : Option String} {f : Cue → Bool} {cs : List Cue}
    (h : (upToMark name cs).any f = true) : cs.any f = true := by
  induction cs with
  | nil => exact h
  | cons c cs ih =>
    rw [upToMark] at h
    rw [List.any_cons, Bool.or_eq_true]
    split at h
    · exact .inl (by simpa using h)
    · rw [List.any_cons, Bool.or_eq_true] at h
      exact h.imp_right ih

/-- A start mark that the walk has not come across has not been set. -/
theorem Progress.unstarted_of_tracks {d : Declarations} {root : Tag} {around : List Tag}
    {seen : List Cue} {p : Progress ρ} (ht : p.ledger.Tracks d root around seen)
    (hseen : seen.any (Cue.isMark d.startMark) = false) : p.Unstarted d.startMark := by
  intro name hname
  rw [Bool.eq_false_iff]
  intro hset
  have hheard : (heard d seen).any (Cue.isMark (some name)) = true := (ht.marks name).symm.trans hset
  rw [hname, any_of_any_upToMark (any_of_any_fromMark hheard)] at hseen
  cases hseen

variable [VoiceRegistry ρ]

/-- What stands in a declaration or a clip is not looked at. -/
theorem Progress.visit_unseen {s : Scene} {p : Progress ρ} {tag : Tag}
    (h : (isDeclaration tag.name || isClip tag.name) = true) (children children' : List Node) :
    p.visit s (.element tag children) = p.visit s (.element tag children') := by
  rcases Bool.eq_false_or_eq_true p.ended with he | he
  · rw [visit_of_ended he, visit_of_ended he]
  · cases hd : isDeclaration tag.name with
    | true => rw [visit_of_declaration children hd, visit_of_declaration children' hd]
    | false =>
      have hc : isClip tag.name = true := by rwa [hd, Bool.false_or] at h
      have hs := isSplitting_of_isClip hc
      rw [visit_of_clip children he hd hs hc, visit_of_clip children' he hd hs hc]

namespace Progress.Agree

variable {s : Scene} {root : Tag}

/-- Nodes that are changed in front of the start mark keep states in agreement. -/
theorem changed {ns ns' : List Node} (hchanged : ChangedBefore s.declarations.startMark ns ns') :
    ∀ {around : List Tag} {seen : List Cue} {p q : Progress ρ},
      p.ledger.Tracks s.declarations root around seen →
      seen.any (Cue.isMark s.declarations.startMark) = false →
      p.Agree s.declarations.startMark q →
      (p.visitAll s ns).Agree s.declarations.startMark (q.visitAll s ns') := by
  induction hchanged with
  | @insert n ns hn =>
    intro around seen p q ht hseen h
    have hq : q.Unstarted s.declarations.startMark := h.unstarted (unstarted_of_tracks ht hseen)
    rw [Progress.visitAll]
    exact visitAll ns (h.trans (visit_slight hn hq))
  | @inside tag children children' ns hmark hchildren ih =>
    intro around seen p q ht hseen h
    rw [Progress.visitAll, Progress.visitAll]
    refine visitAll ns ?_
    have hended := h.ended
    rcases Bool.eq_false_or_eq_true p.ended with he | he <;> rw [he] at hended
    · rwa [visit_of_ended he, visit_of_ended hended]
    cases tag.kind with
    | declaration hd =>
      rwa [visit_of_declaration children hd, visit_of_declaration children' hd]
    | plain hd hs =>
      rw [visit_of_plain children he hd hs, visit_of_plain children' hended hd hs]
      exact (ih ((kept_tracks s root).openTag ht hs) hseen (h.openTag tag)).close
    | clip hd hs hc =>
      rw [visit_of_clip children he hd hs hc, visit_of_clip children' hended hd hs hc]
      exact h.flush.clip tag
    | scope hd hs hc =>
      rw [visit_of_scope children he hd hs hc, visit_of_scope children' hended hd hs hc]
      have hcue : (Cue.tag around tag).isMark s.declarations.startMark = false := hmark
      have henter := (kept_tracks s root).enter ((kept_tracks s root).flush ht)
        ((ended_flush p).trans he) (hasText_flush he) hs hc
      have hseen' : (seen ++ [Cue.tag around tag]).any
          (Cue.isMark s.declarations.startMark) = false := by
        rw [List.any_append, hseen, List.any_cons, hcue]
        rfl
      have hinner := ih henter hseen' ((keptBoth s).enter tag h.flush)
      have hnotempty : children'.isEmpty = false := by
        rw [Bool.eq_false_iff, ne_eq, List.isEmpty_iff]
        exact hchildren.ne_nil
      rw [hnotempty]
      refine leave ?_ h.flush
      cases children with
      | nil =>
        -- one walk ends no section here, but what it would end is dropped at the start mark
        exact hinner.trans (flush_self (hinner.unstarted (unstarted_of_tracks henter hseen')))
      | cons c cs => exact hinner.flush
  | @unseen tag children children' ns hunseen =>
    intro around seen p q ht hseen h
    rw [Progress.visitAll, Progress.visitAll]
    refine visitAll ns ?_
    rw [visit_unseen hunseen children' children]
    exact visit _ h
  | @behind n ns ns' hn hchanged ih =>
    intro around seen p q ht hseen h
    rw [Progress.visitAll, Progress.visitAll]
    refine ih ((kept_tracks s root).visit n ht) ?_ (visit n h)
    have hcues := cutsCues_node s.declarations.startMark around n
    rw [hn] at hcues
    rw [List.any_append, hseen, Bool.false_or]
    exact hcues

end Progress.Agree

/-- The walks through two documents that differ in front of the start mark agree in the end. -/
theorem agree_traverse {s : Scene} {root root' : Element}
    (h : DiffersBefore s.declarations.startMark root root') (c : Config) (registry : ρ) :
    (traverse s c root registry).Agree s.declarations.startMark (traverse s c root' registry) := by
  induction h with
  | rel e e' h =>
    obtain ⟨htag, hchanged⟩ := h
    have hstart : (Progress.start s c e.tag registry).ledger.Tracks s.declarations e.tag [] [] :=
      .start
    unfold traverse
    rw [← htag]
    exact (Progress.Agree.changed hchanged hstart rfl (.refl _)).flush
  | refl e => exact .refl _
  | symm e e' _ ih => exact ih.symm
  | trans e e' e'' _ _ ih ih' => exact ih.trans ih'

/-- If one of them comes across the start mark before the end mark, they are the same. -/
theorem traverse_eq_of_differsBefore {s : Scene} {root root' : Element}
    (h : DiffersBefore s.declarations.startMark root root')
    (hstart : (upToMark s.declarations.endMark root.cues).any
      (Cue.isMark s.declarations.startMark) = true) (c : Config) (registry : ρ) :
    traverse s c root' registry = traverse s c root registry := by
  have hagree := agree_traverse h c registry
  have ht := (kept_tracks s root.tag).traverse c root registry .start
  cases hname : s.declarations.startMark with
  | none => simp [hname, Cue.isMark] at hstart
  | some name =>
    refine (hagree.same name hname ?_).symm
    have hset := ht.marks name
    rw [heard, ← hname, any_fromMark, hstart] at hset
    exact hset

/-! ## 4. Compiling documents that differ -/

/-- **The preamble cannot be heard.**  If the walk comes across the start mark before the end mark, another
document that differs only in front of the start mark, and there only in slight nodes, compiles to the same
result: the plan or the error, and the registry as it was left.  In every walk the start mark is set once at
most, and every later mark of its name is reported. -/
theorem compile_eq_of_differsBefore (s : Scene) (c : Config) (root : Element) (registry : ρ) :
    (∀ root', DiffersBefore s.declarations.startMark root root' →
      (upToMark s.declarations.endMark root.cues).any
        (Cue.isMark s.declarations.startMark) = true →
      compile s c root' registry = compile s c root registry ∧
        compileNotices s c root' registry = compileNotices s c root registry) ∧
      ∀ name, s.declarations.startMark = some name →
        let marks := (upToMark s.declarations.endMark root.cues).countP (Cue.isMark (some name))
        (traverse s c root registry).notices.count (.startReached name) = min 1 marks ∧
          (traverse s c root registry).plan.warnings.count ⟨"mark", .markRepeated name⟩ =
            marks - 1 := by
  refine ⟨fun root' hdiffers hstart => ?_, fun name hname => ?_⟩
  · have hsame := traverse_eq_of_differsBefore hdiffers hstart c registry
    exact ⟨by rw [compile, compile, hsame], by rw [compileNotices, compileNotices, hsame]⟩
  · have hcounts := countsStarts_traverse hname c root registry
    exact ⟨hcounts.starts, hcounts.repeats⟩

/-- Text and a pause in a voice in front of the start mark, which stands in the same voice, and a second
mark of its name. -/
theorem compile_eq_of_differsBefore_in_voice :
    let s : Scene := ⟨{ Declarations.empty with startMark := some "go" }, Path.ofString "/",
      fun _ => false, false⟩
    let go : Node := .element ⟨"mark", [("name", "go")]⟩ []
    let voice (ns : List Node) : Element :=
      ⟨⟨"speak", []⟩, [.element ⟨"voice", [("name", "Bob")]⟩ (ns ++ [go, .text "Hello.", go])]⟩
    let root := voice [.element ⟨"p", []⟩ [.text "One."]]
    let root' := voice [.element ⟨"p", []⟩ [.element ⟨"break", []⟩ [], .text "One."], .text "Two."]
    let registry : String → RegistryAnswer := fun _ => .ok (some .other)
    DiffersBefore s.declarations.startMark root root' ∧
      (upToMark s.declarations.endMark root.cues).any (Cue.isMark s.declarations.startMark) = true ∧
      compile s .standard root' registry = compile s .standard root registry ∧
      (compile s .standard root registry).1.toOption.map Plan.speech =
        some ["<speak>Hello.</speak>"] := by
  intro s go voice root root' registry
  let between := voice [.element ⟨"p", []⟩ [.element ⟨"break", []⟩ [], .text "One."]]
  have hpause : ChangedBefore (some "go") root.children between.children :=
    .inside _ (by decide) (.inside _ (by decide) (.insert _ rfl))
  have htext : ChangedBefore (some "go") between.children root'.children :=
    .inside _ (by decide) (.behind (by rfl) (.insert _ rfl))
  have hdiffers : DiffersBefore s.declarations.startMark root root' :=
    .trans root between root' (.rel _ _ ⟨rfl, hpause⟩) (.rel _ _ ⟨rfl, htext⟩)
  have hreached : (upToMark s.declarations.endMark root.cues).any
      (Cue.isMark s.declarations.startMark) = true := by decide +kernel
  exact ⟨hdiffers, hreached,
    ((compile_eq_of_differsBefore s .standard root registry).1 root' hdiffers hreached).1,
    by decide +kernel⟩

end LecturePlan

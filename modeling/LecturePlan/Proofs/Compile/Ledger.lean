import LecturePlan.Proofs.Compile.Invariant
import LecturePlan.Proofs.Compile.Steps
/-!
# The books of the walk

Sections, marks and chapters are numbered by one counter and cut from one content.  The ledger is that
part of the state; voices, frames, pools and warnings are the other.  Of all splitting tags only marks
and clips change the ledger, and each change has one equation here (`ledger_flush`, `ledger_clip`,
`ledger_enter`), so that statements about numbers and contents never open the handlers of the tags.

`Ledger.Tracks` says how the ledger goes with the cues that have been come across: the end mark has
been seen iff the walk has ended, a name is in the table of marks iff a mark of that name is heard, and
the elements that are open in the content are those around the place of the walk that do not split.
-/

namespace LecturePlan

open LecturePlan.Markup

/-! ## 1. Ledgers -/

/-- The part of the state that numbers and cuts sections. -/
structure Ledger where
  ended : Bool
  nextId : Nat
  content : Content
  sections : List Section
  marks : Table Nat
  chapters : List Chapter

namespace Ledger

/-- The ledger before the walk. -/
def start (root : Tag) : Ledger := ⟨false, 1, .start root, [], ∅, []⟩

/-- Adds a section with the next id. -/
def add (l : Ledger) (kind : SectionKind) : Ledger :=
  { l with sections := l.sections ++ [⟨l.nextId, kind⟩], nextId := l.nextId + 1 }

/-- Forgets all sections, marks, chapters and text. -/
def restart (l : Ledger) : Ledger := ⟨l.ended, 1, l.content.reset, [], ∅, []⟩

/-- Books a mark at the next section, with a chapter if the mark has a title.  The end mark ends the
walk. -/
def bookMark (d : Declarations) (m : Mark) (l : Ledger) : Ledger :=
  { l with
    marks := l.marks.insert m.name l.nextId
    chapters := l.chapters ++ (m.title.map fun title => ⟨title, m.name, l.nextId⟩).toList
    ended := l.ended || d.endMark == some m.name }

/-- Sets a mark whose name is not taken.  The start mark forgets what was before it. -/
def setMark (d : Declarations) (m : Mark) (l : Ledger) : Ledger :=
  if l.marks.contains m.name then l
  else if d.startMark = some m.name then l.restart.bookMark d m
  else l.bookMark d m

/-- What entering a splitting tag does: only marks are booked. -/
def enter (d : Declarations) (t : Tag) (l : Ledger) : Ledger := t.mark?.elim l (l.setMark d)

end Ledger

variable {ρ : Type}

namespace Progress

/-- The ledger of a state. -/
def ledger (p : Progress ρ) : Ledger :=
  ⟨p.ended, p.nextId, p.content, p.plan.sections, p.plan.marks, p.plan.chapters⟩

/-! ## 2. What the tags do to the ledger -/

theorem ledger_of_dropped {t : Tag} {p q : Progress ρ} (h : Dropped t p q) :
    q.ledger = p.ledger := by
  obtain ⟨ws, -, -, rfl⟩ := h
  rfl

/-- The end of a section books it, with the frame and the voice of the moment. -/
theorem ledger_flush (p : Progress ρ) :
    (p.ended = true ∨ p.content.hasText = false) ∧ p.flush.ledger = p.ledger ∨
      p.ended = false ∧ p.content.hasText = true ∧
        p.flush.ledger = { p.ledger.add (.speech p.frame p.voice p.content.render) with
          content := p.content.reset } := by
  rcases flush_cases p with ⟨h, hf⟩ | ⟨he, ht, hf⟩
  · exact .inl ⟨h, by rw [hf]⟩
  · exact .inr ⟨he, ht, by rw [hf]; rfl⟩

theorem ledger_voiceTag [VoiceRegistry ρ] (t : Tag) (p : Progress ρ) :
    (p.voiceTag t).ledger = p.ledger := by
  obtain ⟨registry, h | ⟨name, -, -, h⟩⟩ := voiceTag_cases t p
  · rw [ledger_of_dropped h]
    rfl
  · rw [h]
    rfl

theorem ledger_image (s : Scene) (t : Tag) (p : Progress ρ) : (p.image s t).ledger = p.ledger := by
  rcases image_cases s t p with ⟨-, h⟩ | ⟨path, -, h⟩
  · exact ledger_of_dropped h
  · rw [h]
    rfl

theorem ledger_slide (s : Scene) (t : Tag) (p : Progress ρ) : (p.slide s t).ledger = p.ledger := by
  rcases slide_cases s t p with ⟨problem, -, h⟩ | ⟨id, deck, request, -, h⟩ <;>
  · rw [h]
    rfl

theorem ledger_acceptMark (s : Scene) (name : String) (title : Option String) (p : Progress ρ)
    (h : p.plan.marks.contains name = false) :
    (p.acceptMark s name title).ledger = p.ledger.setMark s.declarations ⟨name, title⟩ := by
  unfold acceptMark Ledger.setMark
  rw [if_neg (show ¬ p.ledger.marks.contains name = true by simpa [ledger] using h)]
  by_cases hs : s.declarations.startMark = some name <;>
    by_cases he : s.declarations.endMark = some name <;>
    cases title <;>
    simp [hs, he, setMark, restart, tell, ledger, Ledger.restart, Ledger.bookMark]

theorem ledger_mark (s : Scene) (t : Tag) (p : Progress ρ) :
    (p.mark s t).ledger = (t.nonEmptyAttr? "name").elim p.ledger fun name =>
      p.ledger.setMark s.declarations ⟨name, t.nonEmptyAttr? "chapter"⟩ := by
  rcases mark_cases s t p with ⟨hdrop, htaken⟩ | ⟨name, hname, hfree, h⟩
  · rw [ledger_of_dropped hdrop]
    cases hname : t.nonEmptyAttr? "name" with
    | none => rfl
    | some name =>
      have hm : p.ledger.marks.contains name = true := htaken name hname
      rw [Option.elim_some, Ledger.setMark, if_pos hm]
  · rw [h, hname, ledger_acceptMark s name _ p hfree, Option.elim_some]

/-- Of the tags that are entered, marks change the ledger. -/
theorem ledger_enter [VoiceRegistry ρ] (s : Scene) (t : Tag) (p : Progress ρ) :
    (p.enter s t).ledger = p.ledger.enter s.declarations t := by
  unfold enter Ledger.enter Tag.mark?
  split
  · rw [ledger_mark]
    cases t.nonEmptyAttr? "name" <;> rfl
  · rw [Option.elim_none]
    split
    · exact ledger_voiceTag t p
    · split
      · exact ledger_image s t p
      · split
        · exact ledger_slide s t p
        · rfl

/-- A clip is dropped, or becomes a section that is no speech. -/
theorem ledger_clip (s : Scene) (t : Tag) (p : Progress ρ) :
    (p.clip s t).ledger = p.ledger ∨
      ∃ kind, (⟨p.nextId, kind⟩ : Section).content? = none ∧
        (p.clip s t).ledger = p.ledger.add kind := by
  rcases clip_cases s t p with ⟨-, h⟩ | ⟨path, window, -, h⟩
  · exact .inl (ledger_of_dropped h)
  · rw [h]
    dsimp only
    split
    · rw [addVideo_eq]
      exact .inr ⟨_, rfl, rfl⟩
    · rw [addAudio_eq]
      exact .inr ⟨_, rfl, rfl⟩

end Progress

/-! ## 3. The ledger goes with the cues -/

/-- **How a ledger goes with the cues.**  `around` are the tags around the place of the walk, and
`seen` the cues in front of it. -/
structure Ledger.Tracks (d : Declarations) (root : Tag) (around : List Tag) (seen : List Cue)
    (l : Ledger) : Prop where
  ended : l.ended = seen.any (Cue.isMark d.endMark)
  tags : l.content.tags = nesting root around
  marks : ∀ name, l.marks.contains name = (heard d seen).any (Cue.isMark (some name))
  /-- Behind the end mark no text waits for a section. -/
  silent : l.ended = true → l.content.hasText = false

namespace Ledger.Tracks

variable {d : Declarations} {root : Tag} {around : List Tag} {seen : List Cue} {l : Ledger}

theorem not_seen_end (h : l.Tracks d root around seen) (he : l.ended = false) :
    seen.any (Cue.isMark d.endMark) = false := h.ended ▸ he

/-- A cue that is no mark is heard after the others, before the end mark. -/
theorem heard_other (h : l.Tracks d root around seen) (he : l.ended = false) {c : Cue}
    (hc : c.mark? = none) : heard d (seen ++ [c]) = heard d seen ++ [c] :=
  heard_append (h.not_seen_end he) fun _ => Cue.isMark_of_none hc _

theorem start : (Ledger.start root).Tracks d root [] [] where
  ended := rfl
  tags := rfl
  marks _ := by
    rw [heard_nil]
    rfl
  silent h := by cases h

theorem pass (h : l.Tracks d root around seen) (he : l.ended = true) (c : Cue) :
    l.Tracks d root around (seen ++ [c]) where
  ended := by rw [List.any_append, ← h.ended, he, Bool.true_or]
  tags := h.tags
  marks name := by rw [heard_of_ended (h.ended ▸ he), h.marks]
  silent := h.silent

theorem other (h : l.Tracks d root around seen) (he : l.ended = false) {c : Cue}
    (hc : c.mark? = none) : l.Tracks d root around (seen ++ [c]) where
  ended := by simp [h.ended, Cue.isMark_of_none hc]
  tags := h.tags
  marks name := by simp [h.heard_other he hc, h.marks, Cue.isMark_of_none hc]
  silent := h.silent

/-! ### A mark -/

/-- The end mark is not in the table before the walk has ended. -/
theorem ne_end_of_taken (h : l.Tracks d root around seen) (he : l.ended = false) {name : String}
    (hm : l.marks.contains name = true) : d.endMark ≠ some name := by
  intro hend
  have hseen := any_of_any_heard (h.not_seen_end he) ((h.marks name).symm.trans hm)
  rw [← hend, ← h.ended, he] at hseen
  cases hseen

/-- A mark whose name is taken is heard after the others. -/
theorem heard_taken (h : l.Tracks d root around seen) (he : l.ended = false) {c : Cue} {m : Mark}
    (hc : c.mark? = some m) (hm : l.marks.contains m.name = true) :
    heard d (seen ++ [c]) = heard d seen ++ [c] := by
  refine heard_append (h.not_seen_end he) fun hs => ?_
  rw [Bool.eq_false_iff]
  intro hstart
  rw [Cue.isMark_of_some hc] at hstart
  have hseen := any_of_any_heard (h.not_seen_end he) ((h.marks m.name).symm.trans hm)
  rw [← hstart, hs] at hseen
  cases hseen

/-- The start mark, when its name is not taken, is heard first. -/
theorem heard_start (h : l.Tracks d root around seen) (he : l.ended = false) {c : Cue} {m : Mark}
    (hc : c.mark? = some m) (hm : l.marks.contains m.name = false) (hs : d.startMark = some m.name) :
    heard d (seen ++ [c]) = [c] := by
  refine heard_append_start (h.not_seen_end he) ?_ ((Cue.isMark_of_some hc _).mpr hs)
  rw [← any_heard_start (h.not_seen_end he), hs, ← h.marks, hm]

/-- A mark that is not the start mark is heard after the others. -/
theorem heard_ne_start (h : l.Tracks d root around seen) (he : l.ended = false) {c : Cue} {m : Mark}
    (hc : c.mark? = some m) (hs : d.startMark ≠ some m.name) :
    heard d (seen ++ [c]) = heard d seen ++ [c] := by
  refine heard_append (h.not_seen_end he) fun _ => ?_
  rw [Bool.eq_false_iff]
  exact fun hstart => hs ((Cue.isMark_of_some hc _).mp hstart)

/-- What becomes of a mark that is come across: its name is taken, or it is the start mark and is
heard first, or it is heard after the others. -/
theorem setMark_cases (h : l.Tracks d root around seen) (he : l.ended = false) {c : Cue} {m : Mark}
    (hc : c.mark? = some m) :
    (l.marks.contains m.name = true ∧ heard d (seen ++ [c]) = heard d seen ++ [c] ∧
        l.setMark d m = l) ∨
      (d.startMark = some m.name ∧ heard d (seen ++ [c]) = [c] ∧
        l.setMark d m = l.restart.bookMark d m) ∨
      (l.marks.contains m.name = false ∧ d.startMark ≠ some m.name ∧
        heard d (seen ++ [c]) = heard d seen ++ [c] ∧ l.setMark d m = l.bookMark d m) := by
  unfold Ledger.setMark
  cases hm : l.marks.contains m.name with
  | true => exact .inl ⟨rfl, h.heard_taken he hc hm, if_pos rfl⟩
  | false =>
    rw [if_neg Bool.false_ne_true]
    by_cases hs : d.startMark = some m.name
    · exact .inr (.inl ⟨hs, h.heard_start he hc hm hs, if_pos hs⟩)
    · exact .inr (.inr ⟨rfl, hs, h.heard_ne_start he hc hs, if_neg hs⟩)

theorem contains_bookMark (d : Declarations) (m : Mark) (l : Ledger) (name : String) :
    (l.bookMark d m).marks.contains name = (name == m.name || l.marks.contains name) := by
  rw [bookMark, Table.contains, Table.get?_insert]
  by_cases hname : name = m.name <;> simp [hname, Table.contains]

/-- Setting a mark: its name is in the table from then on, and nothing that was heard before a start
mark. -/
theorem setMark (h : l.Tracks d root around seen) (he : l.ended = false)
    (ht : l.content.hasText = false) {c : Cue} {m : Mark} (hc : c.mark? = some m) :
    (l.setMark d m).Tracks d root around (seen ++ [c]) := by
  have hmark : ∀ name, [c].any (Cue.isMark name) = (name == some m.name) := fun name => by
    rw [List.any_cons, List.any_nil, Bool.or_false, Bool.eq_iff_iff, Cue.isMark_of_some hc,
      beq_iff_eq]
  have hend : (seen ++ [c]).any (Cue.isMark d.endMark) = (d.endMark == some m.name) := by
    rw [List.any_append, h.not_seen_end he, Bool.false_or, hmark]
  rcases h.setMark_cases he hc with ⟨hm, hheard, heq⟩ | ⟨-, hheard, heq⟩ | ⟨-, -, hheard, heq⟩
  · rw [heq]
    refine ⟨?_, h.tags, fun name => ?_, h.silent⟩
    · rw [hend, he, eq_comm, beq_eq_false_iff_ne]
      exact h.ne_end_of_taken he hm
    · rw [hheard, List.any_append, ← h.marks, hmark]
      by_cases hname : name = m.name
      · rw [hname, hm, Bool.true_or]
      · simp [hname]
  · rw [heq]
    refine ⟨?_, (Content.tags_reset _).trans h.tags, fun name => ?_,
      fun _ => Content.hasText_reset _⟩
    · rw [hend, bookMark, Ledger.restart, he, Bool.false_or]
    · rw [hheard, contains_bookMark, hmark]
      simp [Ledger.restart, Table.contains]
  · rw [heq]
    refine ⟨?_, h.tags, fun name => ?_, fun _ => ht⟩
    · rw [hend, bookMark, he, Bool.false_or]
    · rw [hheard, contains_bookMark, List.any_append, ← h.marks, hmark,
        Bool.or_comm]
      rfl

/-! ### The other steps -/

/-- The ledger of a state that differs in what the cues do not tell. -/
theorem congr {l' : Ledger} (h : l.Tracks d root around seen) (he : l'.ended = l.ended)
    (hc : l'.content = l.content) (hm : l'.marks = l.marks) : l'.Tracks d root around seen :=
  ⟨he.trans h.ended, hc ▸ h.tags, hm ▸ h.marks, fun h' => hc ▸ h.silent (he ▸ h')⟩

theorem addText (h : l.Tracks d root around seen) (he : l.ended = false) (text : String) :
    Ledger.Tracks d root around (seen ++ [.text around text])
      { l with content := l.content.addText text } := by
  obtain ⟨h1, h2, h3, -⟩ := h.other he (c := .text around text) rfl
  exact ⟨h1, h2, h3, fun h' => absurd (h'.symm.trans he) Bool.true_eq_false.mp⟩

theorem openTag (h : l.Tracks d root around seen) {t : Tag} (hs : isSplitting t.name = false) :
    Ledger.Tracks d root (t :: around) seen { l with content := l.content.openTag t } where
  ended := h.ended
  tags := by rw [Content.tags_openTag, h.tags, nesting_cons_of_plain root around hs]
  marks := h.marks
  silent he := (Content.hasText_openTag _ t).trans (h.silent he)

theorem close {t : Tag} (h : l.Tracks d root (t :: around) seen) (hs : isSplitting t.name = false) :
    Ledger.Tracks d root around seen { l with content := l.content.close } where
  ended := h.ended
  tags := by
    have htags := h.tags
    rw [nesting_cons_of_plain root around hs] at htags
    -- the root is open below `t`, so `t` is not the last element that is open
    have houter : l.content.outer ≠ [] := by
      intro hnil
      have hlen := congrArg List.length htags
      simp [Content.tags, Content.chain, hnil, nesting] at hlen
    rw [Content.tags_close, if_neg houter, htags, List.tail_cons]
  marks := h.marks
  silent he := (Content.hasText_close _).trans (h.silent he)

/-- A splitting tag does not nest what stands in it. -/
theorem scope (h : l.Tracks d root around seen) {t : Tag} (hs : isSplitting t.name = true) :
    l.Tracks d root (t :: around) seen :=
  ⟨h.ended, h.tags.trans (nesting_cons_of_splitting root around hs).symm, h.marks, h.silent⟩

theorem unscope {t : Tag} (h : l.Tracks d root (t :: around) seen) (hs : isSplitting t.name = true) :
    l.Tracks d root around seen :=
  ⟨h.ended, h.tags.trans (nesting_cons_of_splitting root around hs), h.marks, h.silent⟩

theorem enter (h : l.Tracks d root around seen) (he : l.ended = false)
    (ht : l.content.hasText = false) {t : Tag} :
    (l.enter d t).Tracks d root around (seen ++ [.tag around t]) := by
  unfold Ledger.enter
  cases hm : t.mark? with
  | none => exact h.other he hm
  | some m => exact h.setMark he ht hm

end Ledger.Tracks

theorem Tag.mark?_of_clip {t : Tag} (h : isClip t.name = true) : t.mark? = none := by
  unfold Tag.mark?
  rw [if_neg]
  intro hname
  rw [hname] at h
  revert h
  decide

/-- **The walk keeps its books.** -/
theorem kept_tracks [VoiceRegistry ρ] (s : Scene) (root : Tag) :
    Kept s fun around seen (p : Progress ρ) =>
      p.ledger.Tracks s.declarations root around seen where
  pass c h he := h.pass he c
  text text h he := h.addText he text
  openTag h hs := h.openTag hs
  close h hs := h.close hs
  flush {around seen p} h := by
    rcases Progress.ledger_flush p with ⟨-, hf⟩ | ⟨he, -, hf⟩
    · rw [hf]
      exact h
    · rw [hf]
      exact ⟨h.ended, (Content.tags_reset _).trans h.tags, h.marks, fun _ => Content.hasText_reset _⟩
  clip {around seen p t} h he _ hc := by
    have hother := h.other he (c := .tag around t) (Tag.mark?_of_clip hc)
    rcases Progress.ledger_clip s t p with hl | ⟨kind, -, hl⟩
    · rw [hl]
      exact hother
    · rw [hl]
      exact hother.congr rfl rfl rfl
  enter {around seen p t} h he ht hs _ := by
    rw [Progress.ledger_enter]
    exact (h.enter he ht).scope hs
  leave _ h hs _ := h.unscope hs

/-! ## 4. Statements about the books -/

/-- **The steps of the walk keep a relation between the cues and the ledger.**  These are the steps of
`Kept`, told by what they book. -/
structure KeptBooks (d : Declarations) (root : Tag) (J : List Cue → Ledger → Prop) : Prop where
  pass {around : List Tag} {seen : List Cue} {l : Ledger} (c : Cue) :
    l.Tracks d root around seen → J seen l → l.ended = true → J (seen ++ [c]) l
  text {around : List Tag} {seen : List Cue} {l : Ledger} (text : String) :
    l.Tracks d root around seen → J seen l → l.ended = false →
      J (seen ++ [.text around text]) { l with content := l.content.addText text }
  openTag {seen : List Cue} {l : Ledger} (t : Tag) :
    J seen l → J seen { l with content := l.content.openTag t }
  close {seen : List Cue} {l : Ledger} : J seen l → J seen { l with content := l.content.close }
  flush {around : List Tag} {seen : List Cue} {l : Ledger} (frame : Frame) (voice : String) :
    l.Tracks d root around seen → J seen l → l.ended = false → l.content.hasText = true →
      J seen { l.add (.speech frame voice l.content.render) with content := l.content.reset }
  /-- A clip adds a section that is no speech. -/
  add {around : List Tag} {seen : List Cue} {l : Ledger} {kind : SectionKind} :
    l.Tracks d root around seen → J seen l → l.ended = false →
      (⟨l.nextId, kind⟩ : Section).content? = none → J seen (l.add kind)
  /-- A tag that is no mark books nothing. -/
  other {around : List Tag} {seen : List Cue} {l : Ledger} {t : Tag} :
    l.Tracks d root around seen → J seen l → l.ended = false → t.mark? = none →
      J (seen ++ [.tag around t]) l
  setMark {around : List Tag} {seen : List Cue} {l : Ledger} {t : Tag} {m : Mark} :
    l.Tracks d root around seen → J seen l → l.ended = false → t.mark? = some m →
      J (seen ++ [.tag around t]) (l.setMark d m)

/-- Such a relation is kept by the walk, beside what all ledgers keep. -/
theorem KeptBooks.kept [VoiceRegistry ρ] {s : Scene} {root : Tag} {J : List Cue → Ledger → Prop}
    (k : KeptBooks s.declarations root J) :
    Kept s fun around seen (p : Progress ρ) =>
      p.ledger.Tracks s.declarations root around seen ∧ J seen p.ledger where
  pass c := fun ⟨ht, h⟩ he => ⟨ht.pass he c, k.pass c ht h he⟩
  text text := fun ⟨ht, h⟩ he => ⟨ht.addText he text, k.text text ht h he⟩
  openTag := fun ⟨ht, h⟩ hs => ⟨ht.openTag hs, k.openTag _ h⟩
  close := fun ⟨ht, h⟩ hs => ⟨ht.close hs, k.close h⟩
  flush {around seen p} := by
    rintro ⟨ht, h⟩
    refine ⟨(kept_tracks s root).flush ht, ?_⟩
    rcases Progress.ledger_flush p with ⟨-, hf⟩ | ⟨he, htext, hf⟩
    · rw [hf]
      exact h
    · rw [hf]
      exact k.flush p.frame p.voice ht h he htext
  clip {around seen p t} := by
    rintro ⟨ht, h⟩ he htext hc
    have hmark : t.mark? = none := Tag.mark?_of_clip hc
    refine ⟨(kept_tracks s root).clip ht he htext hc, ?_⟩
    rcases Progress.ledger_clip s t p with hl | ⟨kind, hkind, hl⟩
    · rw [hl]
      exact k.other ht h he hmark
    · rw [hl]
      exact k.other ((ht.congr rfl rfl rfl)) (k.add ht h he hkind) he hmark
  enter {around seen p t} := by
    rintro ⟨ht, h⟩ he htext hs hc
    refine ⟨(kept_tracks s root).enter ht he htext hs hc, ?_⟩
    rw [Progress.ledger_enter, Ledger.enter]
    cases hm : t.mark? with
    | none => exact k.other ht h he hm
    | some m => exact k.setMark ht h he hm
  leave := fun ⟨htouter, _⟩ ⟨ht, h⟩ hs hdone =>
    ⟨(kept_tracks s root).leave htouter ht hs hdone, h⟩

end LecturePlan

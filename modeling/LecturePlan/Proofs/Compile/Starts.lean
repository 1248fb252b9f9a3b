import LecturePlan.Proofs.Compile.Ledger
/-!
# The start mark is set once

A start mark throws away what was compiled before it, so it matters that it does so only once.  It does,
since a mark whose name is taken is not set, and no restart comes behind the one that took the name of the
start mark.  Every later mark of that name is reported and sets nothing.

`countsStarts_traverse` counts both in what the whole walk tells: one restart at most, and one warning for
every further mark of the name up to the end mark.  Of the other tags nothing needs to be known but whom
their warnings are about (`Progress.Reported`).
-/

namespace LecturePlan

open LecturePlan.Markup

variable {ρ : Type}

/-! ## 1. What tags report -/

namespace Progress

/-- What a tag adds to the report is warnings about it, told as they are put into the plan. -/
def Reported (t : Tag) (p q : Progress ρ) : Prop :=
  ∃ ws : List Warning, (∀ w ∈ ws, w.tag = t.name) ∧
    q.notices = p.notices ++ ws.map Notice.warning ∧ q.plan.warnings = p.plan.warnings ++ ws

variable {s : Scene} {t : Tag} {p q : Progress ρ}

theorem reported_of_dropped (h : Dropped t p q) : Reported t p q := by
  obtain ⟨ws, -, hws, rfl⟩ := h
  exact ⟨ws, fun w hw => (hws w hw).1, rfl, rfl⟩

theorem reported_self (t : Tag) (p : Progress ρ) : Reported t p p :=
  ⟨[], fun _ hw => absurd hw List.not_mem_nil, (List.append_nil _).symm, (List.append_nil _).symm⟩

theorem reported_voiceTag [VoiceRegistry ρ] (t : Tag) (p : Progress ρ) : Reported t p (p.voiceTag t) := by
  obtain ⟨registry, h | ⟨name, -, -, h⟩⟩ := voiceTag_cases t p
  · have hreported : Reported t { p with registry } (p.voiceTag t) := reported_of_dropped h
    exact hreported
  · rw [h]
    exact reported_self t p

theorem reported_image (s : Scene) (t : Tag) (p : Progress ρ) : Reported t p (p.image s t) := by
  rcases image_cases s t p with ⟨-, h⟩ | ⟨path, -, h⟩
  · exact reported_of_dropped h
  · rw [h]
    exact ⟨_, fun w hw => (reports_readFit t w hw).1, rfl, rfl⟩

theorem reported_slide (s : Scene) (t : Tag) (p : Progress ρ) : Reported t p (p.slide s t) := by
  rcases slide_cases s t p with ⟨problem, -, h⟩ | ⟨id, deck, request, -, h⟩
  · rw [h]
    exact ⟨[⟨t.name, problem⟩], fun w hw => by rw [List.mem_singleton.mp hw], rfl, rfl⟩
  · rw [h]
    exact ⟨_, fun w hw => (reports_readFit t w hw).1, rfl, rfl⟩

theorem reported_clip (s : Scene) (t : Tag) (p : Progress ρ) : Reported t p (p.clip s t) := by
  rcases clip_cases s t p with ⟨-, h⟩ | ⟨path, window, -, h⟩
  · exact reported_of_dropped h
  · rw [h]
    dsimp only
    split
    · rw [addVideo_eq]
      dsimp only
      rw [addWarnings_addWarnings]
      refine ⟨_, fun w hw => ?_, rfl, rfl⟩
      exact ((reports_clipWindow t).append (((reports_readFit t).append
        (reports_readPlayback t)).append (reports_keepsFrame s t)) w hw).1
    · rw [addAudio_eq]
      dsimp only
      rw [addWarnings_addWarnings]
      exact ⟨_, fun w hw => ((reports_clipWindow t).append (reports_readPlayback t) w hw).1, rfl, rfl⟩

/-- A tag that is no mark is entered with warnings about it at most. -/
theorem reported_enter [VoiceRegistry ρ] (ht : t.name ≠ "mark") (s : Scene) (p : Progress ρ) :
    Reported t p (p.enter s t) := by
  exact enter_cases s t p (fun hmark => absurd hmark ht) (fun _ => reported_voiceTag t p)
    (fun _ => reported_image s t p) (fun _ => reported_slide s t p) fun _ => reported_self t p

/-- A mark does one of three things: without a name or with one that is taken it is reported, and else it
is set. -/
theorem mark_eq (s : Scene) (t : Tag) (p : Progress ρ) :
    p.mark s t = match t.nonEmptyAttr? "name" with
      | none => p.warn t .markWithoutName
      | some name =>
        if p.plan.marks.contains name then p.warn t (.markRepeated name)
        else p.acceptMark s name (t.nonEmptyAttr? "chapter") := rfl

/-- What is told of a mark that is set. -/
theorem notices_acceptMark (s : Scene) (name : String) (title : Option String) (p : Progress ρ) :
    (p.acceptMark s name title).notices = p.notices ++
      ((if s.declarations.startMark = some name then [.startReached name] else []) ++
        (if s.declarations.endMark = some name then [.endReached name] else [])) := by
  by_cases hs : s.declarations.startMark = some name <;>
    by_cases he : s.declarations.endMark = some name <;>
    simp [acceptMark, hs, he, setMark, restart, tell]

theorem warnings_acceptMark (s : Scene) (name : String) (title : Option String) (p : Progress ρ) :
    (p.acceptMark s name title).plan.warnings = p.plan.warnings := by
  by_cases hs : s.declarations.startMark = some name <;>
    by_cases he : s.declarations.endMark = some name <;>
    simp [acceptMark, hs, he, setMark, restart, tell]

end Progress

/-! ## 2. What is told of starts -/

/-- **The starts that are told of**: the start mark once, if a mark of its name has been come across, and
every later one as a mark that is repeated. -/
structure Progress.CountsStarts (d : Declarations) (name : String) (seen : List Cue) (p : Progress ρ) :
    Prop where
  starts : p.notices.count (.startReached name) =
    min 1 ((upToMark d.endMark seen).countP (Cue.isMark (some name)))
  repeats : p.plan.warnings.count ⟨"mark", .markRepeated name⟩ =
    (upToMark d.endMark seen).countP (Cue.isMark (some name)) - 1

namespace Progress.CountsStarts

variable {d : Declarations} {name : String} {root : Tag} {around : List Tag} {seen : List Cue}
  {p q : Progress ρ}

theorem congr (h : p.CountsStarts d name seen) (hnotices : q.notices = p.notices)
    (hwarnings : q.plan.warnings = p.plan.warnings) : q.CountsStarts d name seen :=
  ⟨hnotices ▸ h.starts, hwarnings ▸ h.repeats⟩

/-- A cue that is no mark of the name, at which nothing is told of starts. -/
theorem other (h : p.CountsStarts d name seen) (ht : p.ledger.Tracks d root around seen)
    (he : p.ended = false) {c : Cue} (hc : c.isMark (some name) = false)
    (hnotices : q.notices.count (.startReached name) = p.notices.count (.startReached name))
    (hwarnings : q.plan.warnings.count ⟨"mark", .markRepeated name⟩ =
      p.plan.warnings.count ⟨"mark", .markRepeated name⟩) :
    q.CountsStarts d name (seen ++ [c]) := by
  have hend := ht.not_seen_end he
  have hcount : (upToMark d.endMark (seen ++ [c])).countP (Cue.isMark (some name)) =
      (upToMark d.endMark seen).countP (Cue.isMark (some name)) := by
    rw [upToMark_append_singleton_of_not_any hend, upToMark_of_not_any hend, List.countP_append,
      List.countP_singleton, hc]
    rfl
  exact ⟨by rw [hcount, hnotices, h.starts], by rw [hcount, hwarnings, h.repeats]⟩

/-- Warnings about a tag that is no mark tell nothing of starts. -/
theorem reported (h : p.CountsStarts d name seen) (ht : p.ledger.Tracks d root around seen)
    (he : p.ended = false) {t : Tag} (hname : t.name ≠ "mark") (hq : Reported t p q) :
    q.CountsStarts d name (seen ++ [.tag around t]) := by
  obtain ⟨ws, hws, hnotices, hwarnings⟩ := hq
  have hmark : (Cue.tag around t).isMark (some name) = false :=
    Cue.isMark_of_none (c := .tag around t) (if_neg hname) _
  refine h.other ht he hmark ?_ ?_
  · rw [hnotices, List.count_append, Nat.add_eq_left, List.count_eq_zero]
    simp
  · rw [hwarnings, List.count_append, Nat.add_eq_left, List.count_eq_zero]
    exact fun hmem => hname (hws _ hmem).symm

/-- A further mark of the name counts one more. -/
theorem countP_append (ht : p.ledger.Tracks d root around seen) (he : p.ended = false) {c : Cue}
    (hc : c.isMark (some name) = true) :
    (upToMark d.endMark (seen ++ [c])).countP (Cue.isMark (some name)) =
      (upToMark d.endMark seen).countP (Cue.isMark (some name)) + 1 := by
  have hend := ht.not_seen_end he
  rw [upToMark_append_singleton_of_not_any hend, upToMark_of_not_any hend, List.countP_append,
    List.countP_singleton, hc]
  rfl

/-- The name of the start mark is taken iff a mark of that name has been come across. -/
theorem contains_iff (ht : p.ledger.Tracks d root around seen) (he : p.ended = false)
    (hstart : d.startMark = some name) :
    p.plan.marks.contains name = true ↔
      0 < (upToMark d.endMark seen).countP (Cue.isMark (some name)) := by
  have hset : p.plan.marks.contains name = (heard d seen).any (Cue.isMark (some name)) :=
    ht.marks name
  rw [hset, ← hstart, any_heard_start (ht.not_seen_end he), upToMark_of_not_any (ht.not_seen_end he),
    List.countP_pos_iff, List.any_eq_true]

/-- The start mark is told of, and none has been before. -/
theorem start {s : Scene} (h : p.CountsStarts s.declarations name seen)
    (ht : p.ledger.Tracks s.declarations root around seen) (he : p.ended = false)
    (hstart : s.declarations.startMark = some name) {c : Cue} (hc : c.isMark (some name) = true)
    (hfree : p.plan.marks.contains name = false) (title : Option String) :
    (p.acceptMark s name title).CountsStarts s.declarations name (seen ++ [c]) := by
  have hzero : (upToMark s.declarations.endMark seen).countP (Cue.isMark (some name)) = 0 := by
    refine Nat.eq_zero_of_not_pos fun hpos => ?_
    rw [(contains_iff ht he hstart).mpr hpos] at hfree
    cases hfree
  have hstarts := h.starts
  have hrepeats := h.repeats
  rw [hzero] at hstarts hrepeats
  refine ⟨?_, ?_⟩
  · rw [countP_append ht he hc, hzero, notices_acceptMark, if_pos hstart, List.count_append, hstarts]
    split <;> simp
  · rw [countP_append ht he hc, hzero, warnings_acceptMark, hrepeats]

/-- A mark whose name is that of the start mark, and taken, is reported. -/
theorem repeated (h : p.CountsStarts d name seen) (ht : p.ledger.Tracks d root around seen)
    (he : p.ended = false) (hstart : d.startMark = some name) {t : Tag} (htag : t.name = "mark")
    {c : Cue} (hc : c.isMark (some name) = true) (htaken : p.plan.marks.contains name = true) :
    (p.warn t (.markRepeated name)).CountsStarts d name (seen ++ [c]) := by
  have hpos := (contains_iff ht he hstart).mp htaken
  have hnotices : (p.warn t (.markRepeated name)).notices =
      p.notices ++ [.warning ⟨t.name, .markRepeated name⟩] := rfl
  have hwarnings : (p.warn t (.markRepeated name)).plan.warnings =
      p.plan.warnings ++ [⟨t.name, .markRepeated name⟩] := rfl
  have hother : [Notice.warning ⟨t.name, .markRepeated name⟩].count (.startReached name) = 0 :=
    List.count_eq_zero.mpr (by simp)
  refine ⟨?_, ?_⟩
  · rw [countP_append ht he hc, hnotices, List.count_append, h.starts, hother, Nat.add_zero,
      Nat.min_eq_left hpos, Nat.min_eq_left (Nat.succ_le_succ (Nat.zero_le _))]
  · rw [countP_append ht he hc, hwarnings, List.count_append, h.repeats, htag,
      List.count_singleton_self, Nat.add_sub_cancel, Nat.sub_add_cancel hpos]

theorem mark {s : Scene} (h : p.CountsStarts s.declarations name seen)
    (ht : p.ledger.Tracks s.declarations root around seen) (he : p.ended = false)
    (hstart : s.declarations.startMark = some name) {t : Tag} (htag : t.name = "mark") :
    (p.mark s t).CountsStarts s.declarations name (seen ++ [.tag around t]) := by
  have hmark : (Cue.tag around t).mark? = (t.nonEmptyAttr? "name").map fun name =>
      ⟨name, t.nonEmptyAttr? "chapter"⟩ := if_pos htag
  rw [mark_eq]
  cases hattr : t.nonEmptyAttr? "name" with
  | none =>
    rw [hattr] at hmark
    refine h.other ht he (Cue.isMark_of_none hmark _) ?_ ?_ <;> simp [warn, addWarnings, tell]
  | some name' =>
    rw [hattr, Option.map_some] at hmark
    have hcue : (Cue.tag around t).isMark (some name) = true ↔ some name = some name' :=
      Cue.isMark_of_some hmark _
    dsimp only
    by_cases hname : name = name'
    · subst hname
      have hc := hcue.mpr rfl
      cases htaken : p.plan.marks.contains name with
      | true => exact h.repeated ht he hstart htag hc htaken
      | false => exact h.start ht he hstart hc htaken _
    · have hne : name' ≠ name := fun heq => hname heq.symm
      have hc : (Cue.tag around t).isMark (some name) = false := by
        rw [Bool.eq_false_iff, ne_eq, hcue, Option.some_inj]
        exact hname
      have hother : s.declarations.startMark ≠ some name' := by
        rw [hstart, ne_eq, Option.some_inj]
        exact hname
      split
      · refine h.other ht he hc ?_ ?_ <;> simp [warn, addWarnings, tell, hne]
      · refine h.other ht he hc ?_ (by rw [warnings_acceptMark])
        rw [notices_acceptMark, if_neg hother, List.count_append, List.nil_append]
        split <;> simp

end Progress.CountsStarts

/-- The walk counts its starts. -/
theorem kept_countsStarts [VoiceRegistry ρ] {s : Scene} {name : String}
    (hstart : s.declarations.startMark = some name) (root : Tag) :
    Kept s fun around seen (p : Progress ρ) => p.ledger.Tracks s.declarations root around seen ∧
      p.CountsStarts s.declarations name seen where
  pass c := fun ⟨ht, h⟩ he => by
    have hup := upToMark_of_any (ht.ended.symm.trans he) [c]
    exact ⟨ht.pass he c, hup ▸ h.starts, hup ▸ h.repeats⟩
  text text := fun ⟨ht, h⟩ he =>
    ⟨ht.addText he text, h.other ht he (Cue.isMark_of_none rfl _) rfl rfl⟩
  openTag := fun ⟨ht, h⟩ hs => ⟨ht.openTag hs, h.congr rfl rfl⟩
  close := fun ⟨ht, h⟩ hs => ⟨ht.close hs, h.congr rfl rfl⟩
  flush {around seen p} := by
    rintro ⟨ht, h⟩
    refine ⟨(kept_tracks s root).flush ht, ?_⟩
    rcases Progress.flush_cases p with ⟨-, hf⟩ | ⟨-, -, hf⟩ <;> rw [hf]
    · exact h
    · exact h.congr rfl rfl
  clip {around seen p t} := by
    rintro ⟨ht, h⟩ he hsilent hc
    have hname : t.name ≠ "mark" := by
      intro hname
      rw [hname] at hc
      cases hc
    exact ⟨(kept_tracks s root).clip ht he hsilent hc,
      h.reported ht he hname (Progress.reported_clip s t p)⟩
  enter {around seen p t} := by
    rintro ⟨ht, h⟩ he hsilent hs hc
    refine ⟨(kept_tracks s root).enter ht he hsilent hs hc, ?_⟩
    by_cases hname : t.name = "mark"
    · rw [Progress.enter, if_pos hname]
      exact h.mark ht he hstart hname
    · exact h.reported ht he hname (Progress.reported_enter hname s p)
  leave := fun ⟨htouter, _⟩ ⟨ht, h⟩ hs hdone =>
    ⟨(kept_tracks s root).leave htouter ht hs hdone, h.congr rfl rfl⟩

/-- **The start mark is set once**, and every later mark of its name up to the end mark is reported. -/
theorem countsStarts_traverse [VoiceRegistry ρ] {s : Scene} {name : String}
    (hstart : s.declarations.startMark = some name) (c : Config) (root : Element) (registry : ρ) :
    (traverse s c root registry).CountsStarts s.declarations name root.cues :=
  ((kept_countsStarts hstart root.tag).traverse c root registry ⟨.start, rfl, rfl⟩).2

end LecturePlan

import LecturePlan.Proofs.Compile.Numbering
import LecturePlan.Proofs.Compile.Origin
/-!
# Marks as boundaries

The number of a mark is written down before there is a section of that number: it is read off a counter
while text may still wait, tags may be dropped, and further marks may follow at the same place.  This
module proves that the number is right whatever comes next.  A mark cuts what is heard in two, and the
sections in front of its number are made of what sounds before the mark, the others of what sounds behind
it (`marks_separate`).

The walk keeps this about all marks that are set at once (`Plan.Cut`).  A mark is set when no text waits,
so all that sounded before is in a section already; and from then on parts are only added behind.
-/

namespace LecturePlan

open LecturePlan.Markup

/-! ## 1. Boundaries -/

/-- The places at which something sounds. -/
def Scene.sounding (s : Scene) (places : List Place) : List Place :=
  places.filter fun place => s.sounds place.cue

/-- A mark does not sound. -/
theorem Scene.sounds_of_isMark (s : Scene) {c : Cue} {name : Option String}
    (h : c.isMark name = true) : s.sounds c = false := by
  cases c with
  | text around text =>
    rw [Cue.isMark_of_none rfl] at h
    cases h
  | tag around t =>
    cases hclip : isClip t.name with
    | false => rw [sounds, hclip, Bool.false_and]
    | true =>
      rw [Cue.isMark_of_none (c := .tag around t) (Tag.mark?_of_clip hclip)] at h
      cases h

/-- **A mark cuts the parts of a plan.**  It is the first of its name at some places, and the parts in
front of its number come from what sounds before it. -/
def Bounded (s : Scene) (places : List Place) (parts : List Part) (name : String) (id : Nat) : Prop :=
  ∃ before mark after, places = before ++ mark :: after ∧ mark.cue.isMark (some name) = true ∧
    (∀ place ∈ before, place.cue.isMark (some name) = false) ∧
    id ≤ parts.length + 1 ∧ (parts.take (id - 1)).flatMap Part.places = s.sounding before

namespace Bounded

variable {s : Scene} {places : List Place} {parts : List Part} {name : String} {id : Nat}

/-- More may be come across behind a mark, and parts may be made of it. -/
theorem append (h : Bounded s places parts name id) (later : List Place) (more : List Part) :
    Bounded s (places ++ later) (parts ++ more) name id := by
  obtain ⟨before, mark, after, rfl, hmark, hfirst, hle, hparts⟩ := h
  refine ⟨before, mark, after ++ later, by simp, hmark, hfirst, ?_, ?_⟩
  · rw [List.length_append]
    omega
  · rw [List.take_append_of_le_length (by omega), hparts]

/-- A mark with a new name stands behind all parts, when all that sounded is in them. -/
theorem here {mark : Place} (hmark : mark.cue.isMark (some name) = true)
    (hfirst : ∀ place ∈ places, place.cue.isMark (some name) = false)
    (hparts : parts.flatMap Part.places = s.sounding places) :
    Bounded s (places ++ [mark]) parts name (parts.length + 1) := by
  refine ⟨places, mark, [], rfl, hmark, hfirst, Nat.le_refl _, ?_⟩
  rw [Nat.add_sub_cancel, List.take_length, hparts]

end Bounded

/-! ## 2. What the walk keeps -/

/-- All marks that are set cut what has been made so far. -/
def Plan.Cut (s : Scene) (seen : List Cue) (parts : List Part) (plan : Plan) : Prop :=
  ∀ name id, plan.marks.get? name = some id →
    Bounded s (heardPlaces s.declarations seen) parts name id

namespace Plan.Cut

variable {s : Scene} {seen : List Cue} {parts : List Part} {p q : Plan}

/-- Without a new mark all stay where they are. -/
theorem append (h : p.Cut s seen parts) {c : Cue} (more : List Part)
    (hplaces : heardPlaces s.declarations (seen ++ [c]) =
      heardPlaces s.declarations seen ++ [⟨seen, c⟩])
    (hmarks : q.marks = p.marks) : q.Cut s (seen ++ [c]) (parts ++ more) := by
  intro name id hid
  rw [hplaces]
  exact (h name id (hmarks ▸ hid)).append [⟨seen, c⟩] more

theorem stays (h : p.Cut s seen parts) {c : Cue}
    (hplaces : heardPlaces s.declarations (seen ++ [c]) =
      heardPlaces s.declarations seen ++ [⟨seen, c⟩])
    (hmarks : q.marks = p.marks) : q.Cut s (seen ++ [c]) parts := by
  have hcut := h.append [] hplaces hmarks
  rwa [List.append_nil] at hcut

/-- A mark that is set cuts what has been made so far, and the others stay where they are. -/
theorem of_insert {marks : Table Nat} {name : String} {id : Nat} (hmarks : p.marks = marks.insert name id)
    (hnew : Bounded s (heardPlaces s.declarations seen) parts name id)
    (hold : ∀ name id, marks.get? name = some id →
      Bounded s (heardPlaces s.declarations seen) parts name id) : p.Cut s seen parts := by
  intro name' id' hid
  rw [hmarks, Table.get?_insert] at hid
  split at hid
  · next hname =>
    cases hid
    exact hname ▸ hnew
  · exact hold name' id' hid

end Plan.Cut

variable {ρ : Type}

/-- No mark of a name that is free is among the places. -/
theorem Ledger.Tracks.not_isMark_of_free {d : Declarations} {root : Tag} {around : List Tag}
    {seen : List Cue} {l : Ledger} (h : l.Tracks d root around seen) {name : String}
    (hfree : l.marks.contains name = false) :
    ∀ place ∈ heardPlaces d seen, place.cue.isMark (some name) = false := by
  have hany : (heard d seen).any (Cue.isMark (some name)) = false := (h.marks name).symm.trans hfree
  intro place hplace
  have hcue : place.cue ∈ heard d seen := by
    rw [← map_cue_heardPlaces]
    exact List.mem_map_of_mem hplace
  simpa using List.any_eq_false.mp hany place.cue hcue

/-- The books number the sections in step with the marks that are heard. -/
def Progress.Numbered (s : Scene) (root : Tag) (around : List Tag) (seen : List Cue)
    (p : Progress ρ) : Prop :=
  p.ledger.Tracks s.declarations root around seen ∧
    p.ledger.Numbers s.declarations (firstMarks (heard s.declarations seen))

variable [VoiceRegistry ρ]

/-- The walk cuts its parts at the marks that it sets. -/
theorem keptParts_cut (s : Scene) (root : Tag) :
    KeptParts s root (fun around seen (p : Progress ρ) => p.Numbered s root around seen)
      fun seen parts plan => plan.Cut s seen parts where
  pass {around seen parts waiting p} c h hcut he name id hid := by
    have hended : seen.any (Cue.isMark s.declarations.endMark) = true := h.tracks.ended.symm.trans he
    rw [heardPlaces_of_ended hended]
    exact hcut name id hid
  text {around seen parts waiting p} text h hcut he :=
    hcut.stays (heardPlaces_append (h.tracks.not_seen_end he)
      (h.tracks.heard_other he (c := .text around text) rfl)) rfl
  flush {around seen parts waiting p} frame voice content h hcut name id hid := by
    have hbounded := (hcut name id hid).append [] [⟨⟨p.nextId, .speech frame voice content⟩, waiting⟩]
    rwa [List.append_nil] at hbounded
  clip {around seen parts more p t} h hcut he hclip _ _ := by
    have hheard := h.tracks.heard_other he (c := .tag around t) (Tag.mark?_of_clip hclip)
    refine hcut.append more (heardPlaces_append (h.tracks.not_seen_end he) hheard) ?_
    rcases Progress.ledger_clip s t p with hl | ⟨kind, -, hl⟩ <;> exact congrArg Ledger.marks hl
  other {around seen parts p t} h hcut he hheard hsame := by
    refine hcut.stays (heardPlaces_append (h.tracks.not_seen_end he) hheard) ?_
    exact congrArg Ledger.marks ((Progress.ledger_enter s t p).trans hsame)
  start {around seen parts p t m} h _ he hm hheard henter := by
    have hmarks : (p.enter s t).plan.marks = (∅ : Table Nat).insert m.name 1 :=
      congrArg Ledger.marks ((Progress.ledger_enter s t p).trans henter)
    have hnew : Bounded s ([] ++ [⟨seen, .tag around t⟩]) [] m.name 1 :=
      .here ((Cue.isMark_of_some (c := .tag around t) hm _).mpr rfl) (by simp) rfl
    rw [List.nil_append, ← heardPlaces_append_start (h.tracks.not_seen_end he) hheard] at hnew
    exact .of_insert hmarks hnew fun _ _ hid => by cases hid
  mark {around seen parts p t m} h hcut he hm hfree hheard henter := by
    have hmarks : (p.enter s t).plan.marks = p.plan.marks.insert m.name p.nextId :=
      congrArg Ledger.marks ((Progress.ledger_enter s t p).trans henter)
    have hplaces := heardPlaces_append (h.tracks.not_seen_end he) hheard
    have hnext : p.nextId = parts.length + 1 := by
      have hbooked : p.nextId = p.plan.sections.length + 1 := h.here.2.next
      rw [hbooked, ← h.traced.sections, List.length_map]
    have hall : parts.flatMap Part.places = s.sounding (heardPlaces s.declarations seen) := by
      rw [Scene.sounding, ← h.traced.order, List.append_nil]
    have hnew : Bounded s (heardPlaces s.declarations seen ++ [⟨seen, .tag around t⟩]) parts
        m.name p.nextId :=
      hnext ▸ .here ((Cue.isMark_of_some (c := .tag around t) hm _).mpr rfl)
        (h.tracks.not_isMark_of_free hfree) hall
    rw [← hplaces] at hnew
    exact .of_insert hmarks hnew (hcut.stays hplaces rfl)

/-! ## 3. The marks of a plan -/

/-- Of what is numbered in order, the numbers below one belong to the front and the others to the
rest. -/
theorem filter_of_numbered {α : Type} {f : α → Nat} {l : List α} {start : Nat}
    (h : l.map f = List.range' start l.length) (n : Nat) :
    l.filter (fun a => f a < start + n) = l.take n ∧
      l.filter (fun a => start + n ≤ f a) = l.drop n := by
  induction l generalizing start n with
  | nil => simp
  | cons a l ih =>
    have hle : ∀ b ∈ a :: l, start ≤ f b := fun b hb =>
      (List.mem_range'_1.mp (h ▸ List.mem_map_of_mem (f := f) hb)).1
    rw [List.map_cons, List.length_cons, List.range'_succ, List.cons.injEq] at h
    obtain ⟨hfirst, hrest⟩ := h
    cases n with
    | zero =>
      refine ⟨List.filter_eq_nil_iff.mpr fun b hb => ?_, List.filter_eq_self.mpr fun b hb => ?_⟩
      · simpa using hle b hb
      · simpa using hle b hb
    | succ n =>
      obtain ⟨hfront, hback⟩ := ih hrest n
      have hshift : start + (n + 1) = start + 1 + n := by omega
      rw [hshift, List.filter_cons_of_pos (by simp [hfirst]; omega),
        List.filter_cons_of_neg (by simp [hfirst]; omega), hfront, hback]
      exact ⟨rfl, rfl⟩

/-- **A mark stands between the sections in front of its number and the others.**  The first of its name
that is heard is the one that is set; the sections with smaller numbers are made of what sounds before
it, and the sections from its number on of what sounds behind it. -/
theorem marks_separate (s : Scene) (c : Config) (root : Element) (registry : ρ) :
    let plan := (traverse s c root registry).plan.pruneChapters
    ∃ parts, plan.HasParts s root parts ∧ ∀ name id, plan.marks.get? name = some id →
      ∃ before mark after, heardPlaces s.declarations root.cues = before ++ mark :: after ∧
        mark.cue.isMark (some name) = true ∧
        (∀ place ∈ before, place.cue.isMark (some name) = false) ∧
        (parts.filter fun part => part.sec.id < id).flatMap Part.places = s.sounding before ∧
        (parts.filter fun part => id ≤ part.sec.id).flatMap Part.places = s.sounding after := by
  intro plan
  have hstart : (Progress.start s c root.tag registry).Numbered s root.tag [] [] :=
    ⟨.start, by rw [heard_nil]; exact .nil _ _⟩
  have hnumbers : Kept s fun around seen (p : Progress ρ) => p.Numbered s root.tag around seen :=
    (keptBooks_numbers s.declarations root.tag).kept
  obtain ⟨parts, hparts, -, hcut⟩ := (keptParts_cut s root.tag).exists_parts hnumbers c registry hstart
    fun name id hid => by cases hid
  have hbooks := (hnumbers.traverse c root registry hstart).2
  refine ⟨parts, hparts, fun name id hid => ?_⟩
  obtain ⟨before, mark, after, hplaces, hmark, hfirst, -, hfront⟩ := hcut name id hid
  have hids : parts.map (fun part => part.sec.id) = List.range' 1 parts.length := by
    have hnumbered : (parts.map Part.sec).map Section.id = List.range' 1 (parts.map Part.sec).length :=
      hparts.sections ▸ hbooks.ids
    rwa [List.map_map, List.length_map] at hnumbered
  have hpos : 1 ≤ id := (hbooks.bounds name id hid).1
  obtain ⟨htake, hdrop⟩ := filter_of_numbered hids (id - 1)
  rw [Nat.add_sub_cancel' hpos] at htake hdrop
  rw [htake, hdrop]
  refine ⟨before, mark, after, hplaces, hmark, hfirst, hfront, ?_⟩
  -- the parts behind the mark are what is left of all parts
  have hsilent : s.sounds mark.cue = false := s.sounds_of_isMark hmark
  have hsplit : (parts.take (id - 1)).flatMap Part.places ++ (parts.drop (id - 1)).flatMap Part.places =
      s.sounding before ++ s.sounding after := by
    rw [← List.flatMap_append, List.take_append_drop, hparts.order, hplaces,
      List.filter_append, List.filter_cons_of_neg (by simp [hsilent])]
    rfl
  rw [hfront] at hsplit
  exact List.append_cancel_left hsplit

end LecturePlan

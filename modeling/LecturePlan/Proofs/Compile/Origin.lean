import LecturePlan.Proofs.Compile.Speech
import LecturePlan.Proofs.Plan.Shown
import Mathlib.Data.List.DropRight
/-!
# Where sections come from

A section is made late: the text that it speaks is read first, and the tag that ends it comes after.
What the section records, its frame and its voice, is what is in force when it is made.  This module
goes back from a section to the places in the document that it was made from, and shows that at each of
these places the frame and the voice were the same already.

A plan falls into parts, a section each with its places (`Plan.HasParts`).  The places of all parts, in
order, are the places of what is heard and sounds, so no place is lost and none is in two parts.  The
theorem about them (`exists_parts`) takes any relation that the steps of the walk keep: at every place of
a part the walk was in a state of that relation, with the frame and the voice of the section.
-/

namespace LecturePlan

open LecturePlan.Markup

/-! ## 1. Places -/

/-- The elements around a cue, from the inside out. -/
def Cue.around : Cue → List Tag
  | .text around _ => around
  | .tag around _ => around

/-- A place in a document: a cue, and all cues in front of it. -/
structure Place where
  before : List Cue
  cue : Cue
deriving DecidableEq, Repr

/-- The places of cues that follow others. -/
def placesFrom (before : List Cue) : List Cue → List Place
  | [] => []
  | c :: cs => ⟨before, c⟩ :: placesFrom (before ++ [c]) cs

/-- The places of the cues of a document. -/
def places (cues : List Cue) : List Place := placesFrom [] cues

/-- The places of what is heard.  These are the last of those up to the end mark, since a start mark
drops what is in front of it. -/
def heardPlaces (d : Declarations) (cues : List Cue) : List Place :=
  (places (upToMark d.endMark cues)).rtake (heard d cues).length

theorem places_append_singleton (cues : List Cue) (c : Cue) :
    places (cues ++ [c]) = places cues ++ [⟨cues, c⟩] := by
  have hfrom : ∀ (cs before : List Cue),
      placesFrom before (cs ++ [c]) = placesFrom before cs ++ [⟨before ++ cs, c⟩] := by
    intro cs
    induction cs with
    | nil => simp [placesFrom]
    | cons x cs ih => simp [placesFrom, ih]
  exact hfrom cues []

@[simp] theorem map_cue_places (cues : List Cue) : (places cues).map Place.cue = cues := by
  have hfrom : ∀ (cs before : List Cue), (placesFrom before cs).map Place.cue = cs := by
    intro cs
    induction cs with
    | nil => exact fun _ => rfl
    | cons c cs ih => exact fun before => congrArg (c :: ·) (ih _)
  exact hfrom cues []

@[simp] theorem length_places (cues : List Cue) : (places cues).length = cues.length := by
  rw [← List.length_map Place.cue, map_cue_places]

theorem heard_suffix (d : Declarations) (cues : List Cue) :
    heard d cues <:+ upToMark d.endMark cues := by
  unfold heard fromMark
  split
  · exact List.dropWhile_suffix _
  · exact List.suffix_rfl

/-- What stands at the places of what is heard is heard. -/
theorem map_cue_heardPlaces (d : Declarations) (cues : List Cue) :
    (heardPlaces d cues).map Place.cue = heard d cues := by
  rw [heardPlaces, List.rtake, List.map_drop, map_cue_places, length_places]
  exact (List.suffix_iff_eq_drop.mp (heard_suffix d cues)).symm

theorem heardPlaces_of_ended {d : Declarations} {cs : List Cue}
    (h : cs.any (Cue.isMark d.endMark) = true) (ds : List Cue) :
    heardPlaces d (cs ++ ds) = heardPlaces d cs := by
  rw [heardPlaces, upToMark_of_any h, heard_of_ended h, heardPlaces]

theorem heardPlaces_append {d : Declarations} {cs : List Cue} {c : Cue}
    (h : cs.any (Cue.isMark d.endMark) = false) (hc : heard d (cs ++ [c]) = heard d cs ++ [c]) :
    heardPlaces d (cs ++ [c]) = heardPlaces d cs ++ [⟨cs, c⟩] := by
  rw [heardPlaces, hc, upToMark_append_singleton_of_not_any h, places_append_singleton,
    List.length_append, List.length_singleton, List.rtake_concat_succ, heardPlaces,
    upToMark_of_not_any h]

theorem heardPlaces_append_start {d : Declarations} {cs : List Cue} {c : Cue}
    (h : cs.any (Cue.isMark d.endMark) = false) (hc : heard d (cs ++ [c]) = [c]) :
    heardPlaces d (cs ++ [c]) = [⟨cs, c⟩] := by
  rw [heardPlaces, hc, upToMark_append_singleton_of_not_any h, places_append_singleton,
    List.length_singleton, ← Nat.zero_add 1, List.rtake_concat_succ, List.rtake_zero,
    List.nil_append]

/-! ## 2. Parts of a plan -/

/-- Whether a cue is played: text is, and a clip that can be used. -/
def Scene.sounds (s : Scene) : Cue → Bool
  | .text .. => true
  | .tag _ t => isClip t.name && (s.clip? t).isSome

/-- A section and the places that it comes from. -/
structure Part where
  sec : Section
  places : List Place

/-- What a section plays is what stands at its places: speech is a document with the text leaves there,
and a clip is one tag. -/
def Part.Made (root : Tag) (part : Part) : Prop :=
  match part.sec.kind with
  | .speech _ _ content => ∃ tree : Element, content = tidyString tree.toString ∧
      part.places ≠ [] ∧ part.places.map (fun place => place.cue.leaf? root) = tree.leaves.map some
  | .video .. => ∃ before around t, part.places = [⟨before, .tag around t⟩] ∧ t.name = "video"
  | .audio .. => ∃ before around t, part.places = [⟨before, .tag around t⟩] ∧ t.name = "audio"

/-- **A plan falls into parts.**  Their sections are those of the plan, and their places are all places
at which something is heard and sounds, in order. -/
structure Plan.HasParts (s : Scene) (root : Element) (plan : Plan) (parts : List Part) : Prop where
  sections : parts.map Part.sec = plan.sections
  order : parts.flatMap Part.places =
    (heardPlaces s.declarations root.cues).filter fun place => s.sounds place.cue
  made : ∀ part ∈ parts, part.Made root.tag

/-- What stands at the places of the parts is what is heard and sounds. -/
theorem Plan.HasParts.cues {s : Scene} {root : Element} {plan : Plan} {parts : List Part}
    (h : plan.HasParts s root parts) :
    (parts.flatMap Part.places).map Place.cue = (heard s.declarations root.cues).filter s.sounds := by
  rw [h.order, ← map_cue_heardPlaces, List.filter_map]
  rfl

/-! ## 3. What the tags do to plans and frames -/

namespace Progress

variable {ρ : Type}

/-- What a clip does that is taken: it adds a section, which shows what is seen if it is only heard. -/
theorem clip_taken {s : Scene} {t : Tag} {p : Progress ρ} (hclip : isClip t.name = true)
    (h : (s.clip? t).isSome = true) :
    ∃ kind, (p.clip s t).plan.sections = p.plan.sections ++ [⟨p.nextId, kind⟩] ∧
      (p.clip s t).content = p.content ∧ p.plan.Keeps (p.clip s t).plan ∧
      (⟨p.nextId, kind⟩ : Section).voice? = none ∧
      (∀ frame, (⟨p.nextId, kind⟩ : Section).frame? = some frame → frame = p.frame) ∧
      ∀ root before around, Part.Made root ⟨⟨p.nextId, kind⟩, [⟨before, .tag around t⟩]⟩ := by
  rcases clip_cases s t p with ⟨hnone, -⟩ | ⟨path, window, -, heq⟩
  · rw [hnone] at h
    cases h
  · rw [heq]
    dsimp only
    split
    · next hvideo =>
      rw [addVideo_eq]
      refine ⟨_, rfl, rfl, .of_internVariant rfl rfl, rfl, fun _ hframe => ?_, ?_⟩
      · cases hframe
      · exact fun _ before around => ⟨before, around, t, rfl, hvideo⟩
    · next hvideo =>
      have haudio : t.name = "audio" := by simpa [isClip, hvideo] using hclip
      rw [addAudio_eq]
      refine ⟨_, rfl, rfl, .of_eq rfl rfl, rfl, fun _ hframe => (Option.some.inj hframe).symm, ?_⟩
      exact fun _ before around => ⟨before, around, t, rfl, haudio⟩

theorem asks_of_dropped {t : Tag} {p q : Progress ρ} (h : Dropped t p q) : p.plan.Asks q.plan := by
  obtain ⟨ws, -, -, rfl⟩ := h
  exact .same rfl rfl

theorem asks_acceptMark (s : Scene) (name : String) (title : Option String) (p : Progress ρ) :
    p.plan.Asks (p.acceptMark s name title).plan := by
  refine .same ?_ ?_ <;> unfold acceptMark <;> dsimp only <;> split <;> split <;> rfl

/-- Of the tags that are entered only images ask for a file. -/
theorem asks_enter [VoiceRegistry ρ] (s : Scene) (t : Tag) (p : Progress ρ) :
    p.plan.Asks (p.enter s t).plan := by
  refine enter_cases (motive := fun q => p.plan.Asks q.plan) s t p (fun _ => ?mark) (fun _ => ?voice)
    (fun _ => ?image) (fun _ => ?slide) fun _ => .same rfl rfl
  case mark =>
    rcases mark_cases s t p with ⟨h, -⟩ | ⟨name, -, -, h⟩
    · exact asks_of_dropped h
    · rw [h]
      exact asks_acceptMark s name _ p
  case voice =>
    obtain ⟨registry, h | ⟨name, -, -, h⟩⟩ := voiceTag_cases t p
    · have hasks := asks_of_dropped h
      exact hasks
    · rw [h]
      exact .same rfl rfl
  case image =>
    rcases image_cases s t p with ⟨-, h⟩ | ⟨path, -, h⟩
    · exact asks_of_dropped h
    · rw [h]
      exact .image path rfl rfl
  case slide =>
    rcases slide_cases s t p with ⟨problem, -, h⟩ | ⟨id, deck, request, -, h⟩ <;>
    · rw [h]
      exact .same rfl rfl

end Progress

/-! ## 4. Tracing sections back -/

variable {ρ : Type}

/-- A state in which the walk passed a place, in some relation to it.  What it showed there a later plan
still shows. -/
structure PassedIn (R : List Tag → List Cue → Progress ρ → Prop) (plan : Plan) (place : Place)
    (q : Progress ρ) : Prop where
  here : R place.cue.around place.before q
  running : q.ended = false
  keeps : q.plan.Keeps plan

theorem PassedIn.mono {R : List Tag → List Cue → Progress ρ → Prop} {plan plan' : Plan}
    {place : Place} {q : Progress ρ} (h : PassedIn R plan place q) (hkeeps : plan.Keeps plan') :
    PassedIn R plan' place q := ⟨h.here, h.running, h.keeps.trans hkeeps⟩

/-- **A section goes with its places.**  At each of them the frame and the voice that it records were in
force. -/
def Part.Recorded (R : List Tag → List Cue → Progress ρ → Prop) (plan : Plan) (part : Part) : Prop :=
  ∀ place ∈ part.places, ∃ q, PassedIn R plan place q ∧
    (∀ frame, part.sec.frame? = some frame → frame = q.frame) ∧
    ∀ voice, part.sec.voice? = some voice → voice = q.voice

theorem Part.Recorded.mono {R : List Tag → List Cue → Progress ρ → Prop} {plan plan' : Plan}
    {part : Part} (h : part.Recorded R plan) (hkeeps : plan.Keeps plan') : part.Recorded R plan' := by
  intro place hplace
  obtain ⟨q, hq, hrecord⟩ := h place hplace
  exact ⟨q, hq.mono hkeeps, hrecord⟩

/-- **What the walk has made so far.**  `waiting` are the places of the text that is in no section yet:
there the frame and the voice were those of the moment, so a section of that text goes with them. -/
structure Traced (s : Scene) (root : Tag) (R : List Tag → List Cue → Progress ρ → Prop)
    (seen : List Cue) (parts : List Part) (waiting : List Place) (p : Progress ρ) : Prop where
  sections : parts.map Part.sec = p.plan.sections
  order : parts.flatMap Part.places ++ waiting =
    (heardPlaces s.declarations seen).filter fun place => s.sounds place.cue
  made : ∀ part ∈ parts, part.Made root
  recorded : ∀ part ∈ parts, part.Recorded R p.plan
  text : waiting.map (fun place => place.cue.leaf? root) = p.content.leaves.map some
  held : ∀ place ∈ waiting, ∃ q, PassedIn R p.plan place q ∧ p.frame = q.frame ∧ p.voice = q.voice

namespace Traced

variable {s : Scene} {root : Tag} {R : List Tag → List Cue → Progress ρ → Prop} {around : List Tag}
  {seen : List Cue} {parts : List Part} {waiting : List Place} {p q : Progress ρ}

theorem start (c : Config) (registry : ρ) :
    Traced s root R [] [] [] (.start s c root registry) where
  sections := rfl
  order := by
    rw [heardPlaces, heard_nil]
    rfl
  made _ hpart := absurd hpart List.not_mem_nil
  recorded _ hpart := absurd hpart List.not_mem_nil
  text := rfl
  held _ hplace := absurd hplace List.not_mem_nil

theorem waiting_eq_nil (h : Traced s root R seen parts waiting p) (ht : p.content.hasText = false) :
    waiting = [] := by
  have htext := h.text
  rwa [Content.leaves_eq_nil ht, List.map_nil, List.map_eq_nil_iff] at htext

/-- The state may change in what sections do not record, and when no text waits in what they do. -/
theorem congr (h : Traced s root R seen parts waiting p) (hsections : q.plan.sections = p.plan.sections)
    (hkeeps : p.plan.Keeps q.plan) (hleaves : q.content.leaves = p.content.leaves)
    (hheld : waiting = [] ∨ q.frame = p.frame ∧ q.voice = p.voice) :
    Traced s root R seen parts waiting q where
  sections := h.sections.trans hsections.symm
  order := h.order
  made := h.made
  recorded part hpart := (h.recorded part hpart).mono hkeeps
  text := by rw [h.text, hleaves]
  held place hplace := by
    rcases hheld with hnil | ⟨hframe, hvoice⟩
    · rw [hnil] at hplace
      exact absurd hplace List.not_mem_nil
    · obtain ⟨r, hr, hrframe, hrvoice⟩ := h.held place hplace
      exact ⟨r, hr.mono hkeeps, hframe.trans hrframe, hvoice.trans hrvoice⟩

theorem pass (h : Traced s root R seen parts waiting p)
    (hend : seen.any (Cue.isMark s.declarations.endMark) = true) (c : Cue) :
    Traced s root R (seen ++ [c]) parts waiting p :=
  { h with order := by rw [heardPlaces_of_ended hend, h.order] }

/-- A cue that is not played is in no section. -/
theorem append_silent (h : Traced s root R seen parts waiting p) {c : Cue}
    (hheard : heardPlaces s.declarations (seen ++ [c]) =
      heardPlaces s.declarations seen ++ [⟨seen, c⟩]) (hc : s.sounds c = false) :
    Traced s root R (seen ++ [c]) parts waiting p :=
  { h with
    order := by
      rw [hheard, List.filter_append, ← h.order, List.filter_singleton, hc]
      simp }

/-- Text waits at its place, where the frame and the voice of the moment are in force. -/
theorem addText (h : Traced s root R seen parts waiting p) (hR : R around seen p)
    (ht : p.ledger.Tracks s.declarations root around seen) (he : p.ended = false) (text : String) :
    Traced s root R (seen ++ [.text around text]) parts (waiting ++ [⟨seen, .text around text⟩])
      { p with content := p.content.addText text } where
  sections := h.sections
  order := by
    have hheard := ht.heard_other he (c := .text around text) rfl
    rw [heardPlaces_append (ht.not_seen_end he) hheard, List.filter_append, ← h.order,
      ← List.append_assoc]
    rfl
  made := h.made
  recorded := h.recorded
  text := by
    have htags : p.content.tags = nesting root around := ht.tags
    rw [List.map_append, h.text, Content.leaves_addText, List.map_append, htags]
    rfl
  held place hplace := by
    rcases List.mem_append.mp hplace with hplace | hplace
    · exact h.held place hplace
    · rw [List.mem_singleton.mp hplace]
      exact ⟨p, ⟨hR, he, .refl _⟩, rfl, rfl⟩

/-- The end of a section: what waited is its part. -/
theorem flush (h : Traced s root R seen parts waiting p) (ht : p.content.hasText = true) :
    Traced s root R seen
      (parts ++ [⟨⟨p.nextId, .speech p.frame p.voice p.content.render⟩, waiting⟩]) []
      { p.addSection (.speech p.frame p.voice p.content.render) with
        content := p.content.reset } where
  sections := by
    rw [List.map_append, h.sections]
    rfl
  order := by
    rw [List.flatMap_append, List.flatMap_singleton, List.append_nil, h.order]
  made := by
    refine List.forall_mem_append.mpr ⟨h.made, List.forall_mem_singleton.mpr ?_⟩
    refine ⟨p.content.tree, p.content.render_eq, ?_, ?_⟩
    · rintro rfl
      have hleaves := (Content.hasText_iff_leaves _).mp ht
      exact hleaves (List.map_eq_nil_iff.mp h.text.symm)
    · rw [Content.leaves_tree]
      exact h.text
  recorded := by
    have hkeeps : p.plan.Keeps
        (p.addSection (.speech p.frame p.voice p.content.render)).plan := .of_eq rfl rfl
    refine List.forall_mem_append.mpr
      ⟨fun part hpart => (h.recorded part hpart).mono hkeeps, List.forall_mem_singleton.mpr ?_⟩
    intro place hplace
    obtain ⟨r, hr, hframe, hvoice⟩ := h.held place hplace
    refine ⟨r, hr.mono hkeeps, fun frame hsome => ?_, fun voice hsome => ?_⟩
    · exact (Option.some.inj hsome).symm.trans hframe
    · exact (Option.some.inj hsome).symm.trans hvoice
  text := by rw [Content.leaves_reset]; rfl
  held _ hplace := absurd hplace List.not_mem_nil

/-- A clip that is taken is a part of its own, behind the others. -/
theorem clip (h : Traced s root R seen parts waiting p) (hR : R around seen p)
    (ht : p.ledger.Tracks s.declarations root around seen) (he : p.ended = false)
    (hsilent : p.content.hasText = false) {t : Tag} (hclip : isClip t.name = true) :
    ∃ more, Traced s root R (seen ++ [.tag around t]) (parts ++ more) [] (p.clip s t) ∧
      (p.clip s t).plan.sections = p.plan.sections ++ more.map Part.sec ∧
      ∀ part ∈ more, part.places = [⟨seen, .tag around t⟩] := by
  obtain rfl := h.waiting_eq_nil hsilent
  have hheard := ht.heard_other he (c := .tag around t) (Tag.mark?_of_clip hclip)
  have hplaces := heardPlaces_append (ht.not_seen_end he) hheard
  cases husable : (s.clip? t).isSome with
  | false =>
    have hsounds : s.sounds (.tag around t) = false := by rw [Scene.sounds, husable, Bool.and_false]
    rcases Progress.clip_cases s t p with ⟨-, ws, -, -, hdrop⟩ | ⟨path, window, hsome, -⟩
    · rw [hdrop]
      refine ⟨[], ?_, (List.append_nil _).symm, fun _ hpart => absurd hpart List.not_mem_nil⟩
      rw [List.append_nil]
      exact (h.append_silent hplaces hsounds).congr rfl (.of_eq rfl rfl) rfl (.inl rfl)
    · rw [hsome] at husable
      cases husable
  | true =>
    have hsounds : s.sounds (.tag around t) = true := by
      rw [Scene.sounds, husable, hclip, Bool.and_true]
    obtain ⟨kind, hsections, hcontent, hkeeps, hvoice, hframe, hmade⟩ :=
      Progress.clip_taken (p := p) hclip husable
    refine ⟨[⟨⟨p.nextId, kind⟩, [⟨seen, .tag around t⟩]⟩], ⟨?_, ?_, ?_, ?_, ?_, ?_⟩, hsections,
      fun part hpart => by rw [List.mem_singleton.mp hpart]⟩
    · rw [List.map_append, h.sections, hsections]
      rfl
    · rw [hplaces, List.filter_append, ← h.order, List.filter_singleton, hsounds]
      simp
    · exact List.forall_mem_append.mpr
        ⟨h.made, List.forall_mem_singleton.mpr (hmade root seen around)⟩
    · refine List.forall_mem_append.mpr
        ⟨fun part hpart => (h.recorded part hpart).mono hkeeps, List.forall_mem_singleton.mpr ?_⟩
      intro place hplace
      rw [List.mem_singleton.mp hplace]
      exact ⟨p, ⟨hR, he, hkeeps⟩, hframe, fun voice hsome => by rw [hvoice] at hsome; cases hsome⟩
    · rw [hcontent]
      exact h.text
    · exact fun _ hplace => absurd hplace List.not_mem_nil

theorem leaves_enter [VoiceRegistry ρ] (t : Tag) (hsilent : p.content.hasText = false) :
    (p.enter s t).content.leaves = p.content.leaves := by
  rw [Content.leaves_eq_nil hsilent, Content.leaves_eq_nil (Progress.hasText_enter s t hsilent)]

/-- A tag that is heard after the others makes no part. -/
theorem enter_stays [VoiceRegistry ρ] (h : Traced s root R seen parts waiting p)
    (ht : p.ledger.Tracks s.declarations root around seen) (he : p.ended = false)
    (hsilent : p.content.hasText = false) {t : Tag} (hclip : isClip t.name = false)
    (hheard : heard s.declarations (seen ++ [.tag around t]) =
      heard s.declarations seen ++ [.tag around t])
    (hsame : (p.ledger.enter s.declarations t).sections = p.plan.sections) :
    Traced s root R (seen ++ [.tag around t]) parts [] (p.enter s t) := by
  obtain rfl := h.waiting_eq_nil hsilent
  have hsounds : s.sounds (.tag around t) = false := by rw [Scene.sounds, hclip, Bool.false_and]
  have hsections := congrArg Ledger.sections (Progress.ledger_enter s t p)
  exact (h.append_silent (heardPlaces_append (ht.not_seen_end he) hheard) hsounds).congr
    (hsections.trans hsame) (.of_asks (Progress.asks_enter s t p)) (leaves_enter t hsilent) (.inl rfl)

/-- A start mark drops the parts before it. -/
theorem enter_restarts [VoiceRegistry ρ]
    (ht : p.ledger.Tracks s.declarations root around seen) (he : p.ended = false)
    (hsilent : p.content.hasText = false) {t : Tag} (hclip : isClip t.name = false)
    (hheard : heard s.declarations (seen ++ [.tag around t]) = [.tag around t])
    (hnone : (p.ledger.enter s.declarations t).sections = []) :
    Traced s root R (seen ++ [.tag around t]) [] [] (p.enter s t) := by
  have hsounds : s.sounds (.tag around t) = false := by rw [Scene.sounds, hclip, Bool.false_and]
  have hsections := congrArg Ledger.sections (Progress.ledger_enter s t p)
  refine ⟨(hsections.trans hnone).symm, ?_, ?_, ?_, ?_, ?_⟩
  · rw [heardPlaces_append_start (ht.not_seen_end he) hheard, List.filter_singleton, hsounds]
    rfl
  · exact fun _ hpart => absurd hpart List.not_mem_nil
  · exact fun _ hpart => absurd hpart List.not_mem_nil
  · rw [leaves_enter t hsilent, Content.leaves_eq_nil hsilent]
    rfl
  · exact fun _ hplace => absurd hplace List.not_mem_nil

end Traced

/-! ## 5. The walk -/

variable [VoiceRegistry ρ]

/-- **Where the walk stands**: what its books and some other relation tell of the place, and the parts it
has made. -/
structure Stands (s : Scene) (root : Tag) (R : List Tag → List Cue → Progress ρ → Prop)
    (around : List Tag) (seen : List Cue) (parts : List Part) (waiting : List Place)
    (p : Progress ρ) : Prop where
  tracks : p.ledger.Tracks s.declarations root around seen
  here : R around seen p
  traced : Traced s root R seen parts waiting p

/-- **The steps of the walk keep a relation between the cues, the parts and the plan.**  These are the
steps of `Kept`, told by what they do to the parts: most add cues only, the end of a section and a clip
add a part, and the start mark drops all of them. -/
structure KeptParts (s : Scene) (root : Tag)
    (R : List Tag → List Cue → Progress ρ → Prop) (J : List Cue → List Part → Plan → Prop) :
    Prop where
  pass {around : List Tag} {seen : List Cue} {parts : List Part} {waiting : List Place}
    {p : Progress ρ} (c : Cue) :
    Stands s root R around seen parts waiting p → J seen parts p.plan → p.ended = true →
      J (seen ++ [c]) parts p.plan
  text {around : List Tag} {seen : List Cue} {parts : List Part} {waiting : List Place}
    {p : Progress ρ} (text : String) :
    Stands s root R around seen parts waiting p → J seen parts p.plan → p.ended = false →
      J (seen ++ [.text around text]) parts p.plan
  flush {around : List Tag} {seen : List Cue} {parts : List Part} {waiting : List Place}
    {p : Progress ρ} (frame : Frame) (voice content : String) :
    Stands s root R around seen parts waiting p → J seen parts p.plan →
      J seen (parts ++ [⟨⟨p.nextId, .speech frame voice content⟩, waiting⟩])
        (p.addSection (.speech frame voice content)).plan
  /-- A clip makes a part of its own, or none. -/
  clip {around : List Tag} {seen : List Cue} {parts more : List Part} {p : Progress ρ} {t : Tag} :
    Stands s root R around seen parts [] p → J seen parts p.plan → p.ended = false →
      isClip t.name = true →
      (p.clip s t).plan.sections = p.plan.sections ++ more.map Part.sec →
      (∀ part ∈ more, part.places = [⟨seen, .tag around t⟩]) →
      J (seen ++ [.tag around t]) (parts ++ more) (p.clip s t).plan
  /-- A tag that sets no mark. -/
  other {around : List Tag} {seen : List Cue} {parts : List Part} {p : Progress ρ} {t : Tag} :
    Stands s root R around seen parts [] p → J seen parts p.plan → p.ended = false →
      heard s.declarations (seen ++ [.tag around t]) =
        heard s.declarations seen ++ [.tag around t] →
      p.ledger.enter s.declarations t = p.ledger →
      J (seen ++ [.tag around t]) parts (p.enter s t).plan
  /-- The start mark, at which everything begins. -/
  start {around : List Tag} {seen : List Cue} {parts : List Part} {p : Progress ρ} {t : Tag}
    {m : Mark} :
    Stands s root R around seen parts [] p → J seen parts p.plan → p.ended = false →
      t.mark? = some m → heard s.declarations (seen ++ [.tag around t]) = [.tag around t] →
      p.ledger.enter s.declarations t = p.ledger.restart.bookMark s.declarations m →
      J (seen ++ [.tag around t]) [] (p.enter s t).plan
  /-- Any other mark with a new name. -/
  mark {around : List Tag} {seen : List Cue} {parts : List Part} {p : Progress ρ} {t : Tag}
    {m : Mark} :
    Stands s root R around seen parts [] p → J seen parts p.plan → p.ended = false →
      t.mark? = some m → p.ledger.marks.contains m.name = false →
      heard s.declarations (seen ++ [.tag around t]) =
        heard s.declarations seen ++ [.tag around t] →
      p.ledger.enter s.declarations t = p.ledger.bookMark s.declarations m →
      J (seen ++ [.tag around t]) parts (p.enter s t).plan

namespace KeptParts

variable {s : Scene} {root : Tag} {R : List Tag → List Cue → Progress ρ → Prop}
  {J : List Cue → List Part → Plan → Prop}

/-- A tag that is entered makes no part, and the start mark drops those before it. -/
theorem enter (k : KeptParts s root R J) {around : List Tag} {seen : List Cue} {parts : List Part}
    {waiting : List Place} {p : Progress ρ} (h : Stands s root R around seen parts waiting p)
    (hJ : J seen parts p.plan) (he : p.ended = false) (hsilent : p.content.hasText = false) {t : Tag}
    (hclip : isClip t.name = false) :
    ∃ parts, Traced s root R (seen ++ [.tag around t]) parts [] (p.enter s t) ∧
      J (seen ++ [.tag around t]) parts (p.enter s t).plan := by
  obtain rfl := h.traced.waiting_eq_nil hsilent
  have hother (hheard : heard s.declarations (seen ++ [.tag around t]) =
      heard s.declarations seen ++ [.tag around t])
      (hsame : p.ledger.enter s.declarations t = p.ledger) :=
    And.intro (h.traced.enter_stays h.tracks he hsilent hclip hheard (by rw [hsame]; rfl))
      (k.other h hJ he hheard hsame)
  cases hm : t.mark? with
  | none =>
    have hsame : p.ledger.enter s.declarations t = p.ledger := by
      rw [Ledger.enter, hm]
      rfl
    exact ⟨parts, hother (h.tracks.heard_other he hm) hsame⟩
  | some m =>
    have henter : p.ledger.enter s.declarations t = p.ledger.setMark s.declarations m := by
      rw [Ledger.enter, hm]
      rfl
    rcases h.tracks.setMark_cases he (c := .tag around t) hm with
      ⟨-, hheard, heq⟩ | ⟨-, hheard, heq⟩ | ⟨hfree, -, hheard, heq⟩
    · exact ⟨parts, hother hheard (henter.trans heq)⟩
    · rw [heq] at henter
      exact ⟨[], Traced.enter_restarts h.tracks he hsilent hclip hheard (by rw [henter]; rfl),
        k.start h hJ he hm hheard henter⟩
    · rw [heq] at henter
      exact ⟨parts, h.traced.enter_stays h.tracks he hsilent hclip hheard (by rw [henter]; rfl),
        k.mark h hJ he hm hfree hheard henter⟩

/-- The walk makes parts in such a relation, beside what its books and any other relation tell. -/
theorem kept (k : KeptParts s root R J) (kR : Kept s R) :
    Kept s fun around seen p => ∃ parts waiting, Stands s root R around seen parts waiting p ∧
      J seen parts p.plan where
  pass c := fun ⟨parts, waiting, h, hJ⟩ he =>
    ⟨parts, waiting, ⟨h.tracks.pass he c, kR.pass c h.here he,
      h.traced.pass (h.tracks.ended ▸ he) c⟩, k.pass c h hJ he⟩
  text text := fun ⟨parts, _, h, hJ⟩ he =>
    have hJ := k.text text h hJ he
    ⟨parts, _, ⟨h.tracks.addText he text, kR.text text h.here he,
      h.traced.addText h.here h.tracks he text⟩, hJ⟩
  openTag := fun ⟨parts, waiting, h, hJ⟩ hs =>
    ⟨parts, waiting, ⟨h.tracks.openTag hs, kR.openTag h.here hs,
      h.traced.congr rfl (.refl _) (Content.leaves_openTag _ _) (.inr ⟨rfl, rfl⟩)⟩, hJ⟩
  close := fun ⟨parts, waiting, h, hJ⟩ hs =>
    ⟨parts, waiting, ⟨h.tracks.close hs, kR.close h.here hs,
      h.traced.congr rfl (.refl _) (Content.leaves_close _) (.inr ⟨rfl, rfl⟩)⟩, hJ⟩
  flush {around seen p} := by
    rintro ⟨parts, waiting, h, hJ⟩
    have htracks := (kept_tracks s root).flush h.tracks
    have hhere := kR.flush h.here
    rcases Progress.flush_cases p with ⟨-, hf⟩ | ⟨-, htext, hf⟩
    · rw [hf]
      exact ⟨parts, waiting, h, hJ⟩
    · rw [hf] at htracks hhere ⊢
      exact ⟨_, [], ⟨htracks, hhere, h.traced.flush htext⟩, k.flush _ _ _ h hJ⟩
  clip {around seen p t} := by
    rintro ⟨parts, waiting, h, hJ⟩ he hsilent hclip
    obtain rfl := h.traced.waiting_eq_nil hsilent
    obtain ⟨more, htraced, hsections, hplaces⟩ := h.traced.clip h.here h.tracks he hsilent hclip
    exact ⟨_, [], ⟨(kept_tracks s root).clip h.tracks he hsilent hclip,
      kR.clip h.here he hsilent hclip, htraced⟩, k.clip h hJ he hclip hsections hplaces⟩
  enter {around seen p t} := by
    rintro ⟨parts, waiting, h, hJ⟩ he hsilent hs hclip
    obtain ⟨parts, htraced, hJ⟩ := k.enter h hJ he hsilent hclip
    exact ⟨parts, [], ⟨(kept_tracks s root).enter h.tracks he hsilent hs hclip,
      kR.enter h.here he hsilent hs hclip, htraced⟩, hJ⟩
  leave {around seen before p outer t} := by
    rintro ⟨_, _, houter, -⟩ ⟨parts, waiting, h, hJ⟩ hs hdone
    have hnil := h.traced.waiting_eq_nil (hdone.elim h.tracks.silent id)
    exact ⟨parts, waiting, ⟨(kept_tracks s root).leave houter.tracks h.tracks hs hdone,
      kR.leave houter.here h.here hs hdone, h.traced.congr rfl (.refl _) rfl (.inl hnil)⟩, hJ⟩

/-- **The plan of a document falls into parts**, in any relation that the steps of the walk keep. -/
theorem exists_parts {document : Element} (k : KeptParts s document.tag R J) (kR : Kept s R)
    (c : Config) (registry : ρ) (hstart : R [] [] (.start s c document.tag registry))
    (hJ : J [] [] .empty) :
    let plan := (traverse s c document registry).plan
    ∃ parts, plan.pruneChapters.HasParts s document parts ∧
      (∀ part ∈ parts, part.Recorded R plan.pruneChapters) ∧ J document.cues parts plan := by
  intro plan
  obtain ⟨parts, waiting, h, hJ⟩ := (k.kept kR).traverse c document registry
    ⟨[], [], ⟨.start, hstart, .start c registry⟩, hJ⟩
  have hnil := h.traced.waiting_eq_nil (hasText_traverse s c document registry)
  refine ⟨parts, ⟨h.traced.sections, ?_, h.traced.made⟩, fun part hpart => ?_, hJ⟩
  · rw [← h.traced.order, hnil, List.append_nil]
  · exact (h.traced.recorded part hpart).mono (.of_eq rfl rfl)

end KeptParts

/-- **Every section comes from places at which its frame and its voice were in force.**  The plan of a
document falls into parts, and at each place of a part the walk was in a state of any relation that its
steps keep. -/
theorem exists_parts {s : Scene} {R : List Tag → List Cue → Progress ρ → Prop}
    (k : Kept s R) (c : Config) (root : Element) (registry : ρ)
    (hstart : R [] [] (.start s c root.tag registry)) :
    ∃ parts, (traverse s c root registry).plan.pruneChapters.HasParts s root parts ∧
      ∀ part ∈ parts, part.Recorded R (traverse s c root registry).plan.pruneChapters := by
  have hany : KeptParts s root.tag R fun _ _ _ => True := by
    constructor <;> intros <;> trivial
  obtain ⟨parts, hparts, hrecorded, -⟩ := hany.exists_parts k c registry hstart trivial
  exact ⟨parts, hparts, hrecorded⟩

end LecturePlan

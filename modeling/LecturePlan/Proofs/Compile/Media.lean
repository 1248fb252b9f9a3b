import LecturePlan.Proofs.Compile.Sight
import LecturePlan.Proofs.Plan.Interned
/-!
# What clips play

A clip section names a file by its place in a pool and a trim window by a key.  Both stand for what the
tag of the section asked for: the file of its source, the window in milliseconds, and the fit
(`ClipRequest`).  This module proves that a plan leads from every clip section back to the request of its
own tag, however many tags have asked since, and that two sections share a place or a variant exactly if
their tags asked for the same (`media_interned`).

- `Plan.Asks` says all that a step of the walk may do to the pools: nothing, or ask one of them for a file.
- `kept_of_asks` makes an invariant of the walk of whatever such a step keeps; that the pools are in order
  (`Plan.Interned`) and that they only grow (`Plan.PoolsGrow`) are two.
- `keptParts_plays` keeps the requests of the parts while parts are made.
-/

namespace LecturePlan

open LecturePlan.Markup

/-! ## 1. Requests -/

/-- What a clip tag asks for.  Bounds are told in milliseconds, so two that are written differently may be
the same; a bound that is not there is an end of the file. -/
structure ClipRequest where
  path : Path
  begin : Option Nat
  stop : Option Nat
  /-- Only videos are fitted. -/
  fit : Option Fit
deriving DecidableEq

/-- The bound that an attribute asks for, if it is a point behind the beginning of the file. -/
def Markup.Tag.bound? (t : Tag) (key : String) : Option Nat :=
  (((t.nonEmptyAttr? key).bind Timestamp.parse?).map Timestamp.total).filter fun n => 0 < n

/-- The fit that a clip tag asks for. -/
def Markup.Tag.clipFit (t : Tag) : Option Fit :=
  if t.name = "video" then some (t.fit?.getD .contain) else none

/-- What a clip tag asks for, if its file is there. -/
def Scene.request? (s : Scene) (t : Tag) : Option ClipRequest :=
  (s.file? t).map fun path => ⟨path, t.bound? "clipBegin", t.bound? "clipEnd", t.clipFit⟩

/-- A bound in milliseconds. -/
def ClipBound.millis? : ClipBound → Option Nat
  | .at' t => some t.total
  | _ => none

/-- The bound that milliseconds stand for, or else the end of the file on its side. -/
def ClipBound.ofMillis (whole : ClipBound) (millis : Option Nat) : ClipBound :=
  (millis.map fun n => .at' ⟨n⟩).getD whole

theorem ClipBound.ofMillis_start {b : ClipBound} (h : b ≠ .end') : ofMillis .start b.millis? = b := by
  cases b with
  | start => rfl
  | end' => exact absurd rfl h
  | at' t => rfl

theorem ClipBound.ofMillis_end {b : ClipBound} (h : b ≠ .start) : ofMillis .end' b.millis? = b := by
  cases b with
  | start => exact absurd rfl h
  | end' => rfl
  | at' t => rfl

/-- What is asked for by a variant of a file. -/
def Variant.request (v : Variant) (path : Path) : ClipRequest :=
  ⟨path, v.clipBegin.millis?, v.clipEnd.millis?, v.fit⟩

/-- Variants that make sense are told apart by what is asked for. -/
theorem Variant.Proper.request_inj {video : Bool} {v w : Variant} (hv : v.Proper video)
    (hw : w.Proper video) {path path' : Path} (h : v.request path = w.request path') :
    path = path' ∧ v = w := by
  rw [Variant.request, Variant.request, ClipRequest.mk.injEq] at h
  obtain ⟨hpath, hbegin, hend, hfit⟩ := h
  have hstart := congrArg (ClipBound.ofMillis .start) hbegin
  rw [ClipBound.ofMillis_start hv.begin_ne, ClipBound.ofMillis_start hw.begin_ne] at hstart
  have hstop := congrArg (ClipBound.ofMillis .end') hend
  rw [ClipBound.ofMillis_end hv.end_ne, ClipBound.ofMillis_end hw.end_ne] at hstop
  cases v
  cases w
  rw [Variant.mk.injEq]
  exact ⟨hpath, hstart, hstop, hfit⟩

/-- The variant that a clip tag asks for. -/
def Markup.Tag.variant (t : Tag) (window : ClipBound × ClipBound) : Variant :=
  ⟨window.1, window.2, t.clipFit⟩

/-! ## 2. Windows -/

theorem map_total_clipPoint (t : Tag) (key : String) :
    (clipPoint t key).1.map Timestamp.total = t.bound? key := by
  unfold clipPoint Tag.bound?
  cases t.nonEmptyAttr? key with
  | none => rfl
  | some value =>
    rw [Option.bind_some]
    cases hparse : Timestamp.parse? value with
    | none => simp only [hparse]; rfl
    | some p => by_cases hp : 0 < p.total <;> simp [hparse, Option.filter, hp]

theorem total_pos_of_clipPoint {t : Tag} {key : String} {p : Timestamp}
    (h : (clipPoint t key).1 = some p) : 0 < p.total := by
  have hbound := map_total_clipPoint t key
  rw [h, Option.map_some] at hbound
  simpa using (Option.filter_eq_some_iff.mp hbound.symm).2

theorem eq_of_getD_at {first : Option Timestamp} {whole : ClipBound} {p : Timestamp}
    (hwhole : whole.millis? = none) (h : (first.map ClipBound.at').getD whole = .at' p) :
    first = some p := by
  cases first with
  | none =>
    rw [Option.map_none, Option.getD_none] at h
    rw [h] at hwhole
    cases hwhole
  | some q =>
    cases h
    rfl

theorem getD_at_ne {first : Option Timestamp} {whole other : ClipBound} (hne : whole ≠ other)
    (hother : other.millis? = none) : (first.map ClipBound.at').getD whole ≠ other := by
  cases first with
  | none => exact hne
  | some p =>
    rintro rfl
    cases hother

theorem millis?_getD {first : Option Timestamp} {whole : ClipBound} (h : whole.millis? = none) :
    ((first.map ClipBound.at').getD whole).millis? = first.map Timestamp.total := by
  cases first with
  | none => exact h
  | some p => rfl

/-- A window that can be used has the bounds of the tag, and does not end before it begins. -/
theorem clipWindow_ok {t : Tag} {window : ClipBound × ClipBound} (h : (clipWindow t).1 = .ok window) :
    window = (((clipPoint t "clipBegin").1.map ClipBound.at').getD .start,
        ((clipPoint t "clipEnd").1.map ClipBound.at').getD .end') ∧
      ∀ b e, (clipPoint t "clipBegin").1 = some b → (clipPoint t "clipEnd").1 = some e →
        b.total < e.total := by
  unfold clipWindow at h
  dsimp only at h
  split at h
  · next b e hb he =>
    split at h
    · cases h
    · next hlt =>
      refine ⟨(Except.ok.inj h).symm, fun b' e' hb' he' => ?_⟩
      cases hb.symm.trans hb'
      cases he.symm.trans he'
      exact Nat.lt_of_not_le hlt
  · next hnot => exact ⟨(Except.ok.inj h).symm, fun b e hb he => absurd he (hnot b e hb)⟩

/-- A tag asks for its own variant. -/
theorem request_variant {s : Scene} {t : Tag} {path : Path} {window : ClipBound × ClipBound}
    (h : s.clip? t = some (path, window)) :
    s.request? t = some ((t.variant window).request path) := by
  unfold Scene.clip? at h
  split at h
  · next path' window' hfile hok =>
    cases h
    obtain ⟨rfl, -⟩ := clipWindow_ok hok
    rw [Scene.request?, hfile, Variant.request, Tag.variant, millis?_getD rfl, millis?_getD rfl,
      map_total_clipPoint, map_total_clipPoint]
    rfl
  · cases h

/-- It makes sense. -/
theorem proper_variant {s : Scene} {t : Tag} {path : Path} {window : ClipBound × ClipBound}
    (h : s.clip? t = some (path, window)) : (t.variant window).Proper (t.name == "video") := by
  unfold Scene.clip? at h
  split at h
  · next path' window' hfile hok =>
    cases h
    obtain ⟨rfl, hlt⟩ := clipWindow_ok hok
    exact {
      fit := by by_cases hvideo : t.name = "video" <;> simp [Tag.variant, Tag.clipFit, hvideo]
      begin_ne := getD_at_ne (by decide) rfl
      end_ne := getD_at_ne (by decide) rfl
      begin_pos := fun p hp => total_pos_of_clipPoint (eq_of_getD_at rfl hp)
      end_pos := fun p hp => total_pos_of_clipPoint (eq_of_getD_at rfl hp)
      begin_lt_end := fun b e hb he => hlt b e (eq_of_getD_at rfl hb) (eq_of_getD_at rfl he) }
  · cases h

/-! ## 3. What the walk does to the pools -/

/-- A clip section as its file and its variant in one of the pools. -/
structure ClipRef where
  video : Bool
  id : Nat
  key : String
deriving DecidableEq

/-- The clip that a section plays. -/
def SectionKind.clip? : SectionKind → Option ClipRef
  | .speech .. => none
  | .video id key _ => some ⟨true, id, key⟩
  | .audio id key _ _ => some ⟨false, id, key⟩

variable {ρ : Type}

namespace Progress

theorem asks_flush (p : Progress ρ) : p.plan.Asks p.flush.plan := by
  rcases flush_cases p with ⟨-, h⟩ | ⟨-, -, h⟩ <;> rw [h] <;> exact .same rfl rfl

/-- A clip tag is dropped, or it asks for its variant and becomes a section that plays it. -/
theorem clip_asks (s : Scene) (t : Tag) (p : Progress ρ) :
    (p.clip s t).plan.sections = p.plan.sections ∧ p.plan.Asks (p.clip s t).plan ∨
      ∃ path window, s.clip? t = some (path, window) ∧
        let found := internVariant path (t.variant window) (p.plan.pool (t.name == "video"))
        (p.clip s t).plan.images = p.plan.images ∧
        (p.clip s t).plan.pool = Function.update p.plan.pool (t.name == "video") found.2 ∧
        ∃ kind, kind.clip? = some ⟨t.name == "video", found.1, (t.variant window).key⟩ ∧
          (p.clip s t).plan.sections = p.plan.sections ++ [⟨p.nextId, kind⟩] := by
  rcases clip_cases s t p with ⟨-, hdrop⟩ | ⟨path, window, hsome, heq⟩
  · refine .inl ⟨?_, asks_of_dropped hdrop⟩
    obtain ⟨ws, -, -, h⟩ := hdrop
    rw [h]
    rfl
  · refine .inr ⟨path, window, hsome, ?_⟩
    rw [heq]
    dsimp only
    by_cases hvideo : t.name = "video"
    · have hvariant : videoVariant t window = t.variant window := by
        rw [videoVariant, readFit_fst, Tag.variant, Tag.clipFit, if_pos hvideo]
      rw [if_pos hvideo, addVideo_eq, hvariant, hvideo]
      refine ⟨rfl, ?_, _, rfl, rfl⟩
      funext video
      cases video <;> rfl
    · have hvariant : audioVariant window = t.variant window := by
        rw [audioVariant, Tag.variant, Tag.clipFit, if_neg hvideo]
      rw [if_neg hvideo, addAudio_eq, hvariant, beq_false_of_ne hvideo]
      refine ⟨rfl, ?_, _, rfl, rfl⟩
      funext video
      cases video <;> rfl

theorem asks_clip (s : Scene) (t : Tag) (p : Progress ρ) :
    p.plan.Asks (p.clip s t).plan := by
  rcases clip_asks s t p with ⟨-, h⟩ | ⟨path, window, hsome, himages, hpool, -⟩
  · exact h
  · exact .clip _ path _ (proper_variant hsome) himages hpool

end Progress

/-! ## 4. What the walk keeps -/

variable [VoiceRegistry ρ]

/-- The walk keeps whatever a step keeps that may ask for a file. -/
theorem kept_of_asks {s : Scene} {I : Plan → Prop} (hasks : ∀ {p q : Plan}, I p → p.Asks q → I q) :
    Kept s fun _ _ (p : Progress ρ) => I p.plan where
  pass _ h _ := h
  text _ h _ := h
  openTag h _ := h
  close h _ := h
  flush h := hasks h (Progress.asks_flush _)
  clip h _ _ _ := hasks h (Progress.asks_clip s _ _)
  enter h _ _ _ _ := hasks h (Progress.asks_enter s _ _)
  leave _ h _ _ := h

/-- No entry is taken from a pool, whatever is visited. -/
theorem poolsGrow_visitAll (s : Scene) (p : Progress ρ) (ns : List Node) :
    p.plan.PoolsGrow (p.visitAll s ns).plan := by
  have hkept : Kept s fun _ _ (q : Progress ρ) => p.plan.PoolsGrow q.plan :=
    kept_of_asks fun h hasks => h.trans (.of_asks hasks)
  exact @Kept.visitAll ρ _ s _ hkept ns [] [] p (.refl p.plan)

/-- The request that a plan leads to from a clip section. -/
def Plan.played? (plan : Plan) (ref : ClipRef) : Option ClipRequest :=
  (variantAt? (plan.pool ref.video) ref.id ref.key).map fun (path, v) => v.request path

/-- **A part plays what its tag asks for.**  It is made of one tag of its kind, and the plan leads from
its section to the request of that tag. -/
structure Part.Plays (s : Scene) (plan : Plan) (part : Part) (ref : ClipRef) (x : ClipRequest) :
    Prop where
  clip : part.sec.kind.clip? = some ref
  played : plan.played? ref = some x
  asked : ∃ before around t, part.places = [⟨before, .tag around t⟩] ∧
    t.name = (if ref.video then "video" else "audio") ∧ s.request? t = some x

namespace Plan

variable {p q : Plan} {ref ref' : ClipRef} {x y : ClipRequest}

/-- What is played goes on being played when the pools grow. -/
theorem PoolsGrow.played? (h : p.PoolsGrow q) (hx : p.played? ref = some x) :
    q.played? ref = some x := by
  obtain ⟨⟨path, v⟩, hv, hrequest⟩ := Option.map_eq_some_iff.mp hx
  exact Option.map_eq_some_iff.mpr ⟨(path, v), (h.clips ref.video).variantAt? hv, hrequest⟩

/-- **What is shared is what is asked for**: two clips of one pool have one file exactly if the paths are
the same, and one variant exactly if the requests are. -/
theorem Interned.shares (h : p.Interned) (hx : p.played? ref = some x) (hy : p.played? ref' = some y)
    (hpool : ref.video = ref'.video) :
    (ref.id = ref'.id ↔ x.path = y.path) ∧ (ref = ref' ↔ x = y) := by
  obtain ⟨video, id, key⟩ := ref
  obtain ⟨video', id', key'⟩ := ref'
  obtain rfl : video = video' := hpool
  obtain ⟨⟨path, v⟩, hv, rfl⟩ := Option.map_eq_some_iff.mp hx
  obtain ⟨⟨path', w⟩, hw, rfl⟩ := Option.map_eq_some_iff.mp hy
  have hclips := h.clips video
  have hplace : id = id' ↔ path = path' := hclips.place_eq_iff hv hw
  refine ⟨hplace, ?_, fun hsame => ?_⟩
  · intro href
    cases href
    rw [hv, Option.some.injEq, Prod.mk.injEq] at hw
    rw [hw.1, hw.2]
  · obtain ⟨rfl, hproper⟩ := hclips.proper hv
    obtain ⟨rfl, hproper'⟩ := hclips.proper hw
    obtain ⟨hpath, hvariant⟩ := hproper.request_inj hproper' hsame
    rw [hplace.mpr hpath, hvariant]

end Plan

theorem Part.Plays.mono {s : Scene} {p q : Plan} {part : Part} {ref : ClipRef} {x : ClipRequest}
    (h : part.Plays s p ref x) (hgrow : p.PoolsGrow q) : part.Plays s q ref x :=
  ⟨h.clip, hgrow.played? h.played, h.asked⟩

/-- Every part with a clip plays what its tag asks for. -/
def AllPlay (s : Scene) (parts : List Part) (plan : Plan) : Prop :=
  ∀ part ∈ parts, ∀ ref, part.sec.kind.clip? = some ref → ∃ x, part.Plays s plan ref x

theorem AllPlay.mono {s : Scene} {parts : List Part} {p q : Plan} (h : AllPlay s parts p)
    (hgrow : p.PoolsGrow q) : AllPlay s parts q := by
  intro part hpart ref href
  obtain ⟨x, hx⟩ := h part hpart ref href
  exact ⟨x, hx.mono hgrow⟩

omit [VoiceRegistry ρ] in
/-- A clip that is taken plays what its tag asks for. -/
theorem allPlay_clip {s : Scene} {seen : List Cue} {around : List Tag} {parts : List Part} {t : Tag}
    {p : Progress ρ} (hpools : p.plan.Interned) (hclip : isClip t.name = true)
    (hsections : (p.clip s t).plan.sections = p.plan.sections ++ parts.map Part.sec)
    (hplaces : ∀ part ∈ parts, part.places = [⟨seen, .tag around t⟩]) :
    AllPlay s parts (p.clip s t).plan := by
  intro part hpart ref href
  rcases Progress.clip_asks s t p with ⟨hnone, -⟩ | ⟨path, window, hsome, -, hpool, kind, hkind, htaken⟩
  · have hnil : parts.map Part.sec = [] := by
      rw [hnone] at hsections
      exact List.append_right_eq_self.mp hsections.symm
    rw [List.map_eq_nil_iff.mp hnil] at hpart
    exact absurd hpart List.not_mem_nil
  · have hone : parts.map Part.sec = [⟨p.nextId, kind⟩] :=
      List.append_cancel_left (hsections.symm.trans htaken)
    have hsec : part.sec = ⟨p.nextId, kind⟩ :=
      List.mem_singleton.mp (hone ▸ List.mem_map_of_mem hpart)
    rw [hsec] at href
    obtain rfl := Option.some.inj (hkind.symm.trans href)
    refine ⟨(t.variant window).request path, by rw [hsec]; exact hkind, ?_, seen, around, t,
      hplaces part hpart, ?_, request_variant hsome⟩
    · rw [Plan.played?, hpool, Function.update_self,
        (hpools.clips _).variantAt?_internVariant path (t.variant window)]
      rfl
    · by_cases hvideo : t.name = "video"
      · simp [hvideo]
      · have haudio : t.name = "audio" := by simpa [isClip, hvideo] using hclip
        simp [haudio]

/-- While parts are made, every clip among them plays what its tag asks for. -/
theorem keptParts_plays (s : Scene) (root : Tag) :
    KeptParts s root (fun _ _ (p : Progress ρ) => p.plan.Interned)
      fun _ parts plan => AllPlay s parts plan where
  pass _ _ hplay _ := hplay
  text _ _ hplay _ := hplay
  flush {around seen parts waiting p} frame voice content _ hplay := by
    have hgrow : p.plan.PoolsGrow (p.addSection (.speech frame voice content)).plan :=
      .of_asks (.same rfl rfl)
    refine List.forall_mem_append.mpr ⟨hplay.mono hgrow, List.forall_mem_singleton.mpr ?_⟩
    intro ref href
    cases href
  clip {around seen parts more p t} h hplay _ hclip hsections hplaces :=
    List.forall_mem_append.mpr ⟨hplay.mono (.of_asks (Progress.asks_clip s t p)),
      allPlay_clip h.here hclip hsections hplaces⟩
  other {around seen parts p t} _ hplay _ _ _ := hplay.mono (.of_asks (Progress.asks_enter s t p))
  start _ _ _ _ _ _ _ hpart := absurd hpart List.not_mem_nil
  mark {around seen parts p t m} _ hplay _ _ _ _ _ :=
    hplay.mono (.of_asks (Progress.asks_enter s t p))

/-! ## 5. The clips of a plan -/

/-- **No media are mixed up, and none stand twice.**  The pools of a plan are in order, and they only grew
on the way; keys tell variants apart.  So every clip section plays what its own tag asks for, and two of
them share a file or a variant exactly if their tags ask for it both. -/
theorem media_interned (s : Scene) (c : Config) (root : Element) (registry : ρ) :
    let plan := (traverse s c root registry).plan.pruneChapters
    plan.Interned ∧
      (∀ (p : Progress ρ) (ns : List Node),
        p.plan.PoolsGrow (p.visitAll s ns).plan ∧ p.plan.PoolsGrow p.flush.plan) ∧
      (∀ v w : Variant, v.key = w.key → v = w) ∧
      ∃ parts, plan.HasParts s root parts ∧
        (∀ part ∈ parts, ∀ ref, part.sec.kind.clip? = some ref → ∃ x, part.Plays s plan ref x) ∧
        ∀ part ∈ parts, ∀ part' ∈ parts, ∀ ref ref' x y, part.Plays s plan ref x →
          part'.Plays s plan ref' y → ref.video = ref'.video →
          (ref.id = ref'.id ↔ x.path = y.path) ∧ (ref = ref' ↔ x = y) := by
  intro plan
  have hkept : Kept s fun _ _ (p : Progress ρ) => p.plan.Interned :=
    kept_of_asks fun h hasks => h.asks hasks
  have hstart : (Progress.start s c root.tag registry).plan.Interned := ⟨.nil, fun video => by
    cases video <;> exact .nil⟩
  have hpools : plan.Interned := (hkept.traverse c root registry hstart).asks (.same rfl rfl)
  obtain ⟨parts, hparts, -, hplay⟩ := (keptParts_plays s root.tag).exists_parts hkept c registry hstart
    fun _ hpart => absurd hpart List.not_mem_nil
  refine ⟨hpools, fun p ns => ⟨poolsGrow_visitAll s p ns, .of_asks (Progress.asks_flush p)⟩,
    fun _ _ => Variant.key_inj, parts, hparts, hplay.mono (.of_asks (.same rfl rfl)), ?_⟩
  intro _ _ _ _ ref ref' x y hx hy hpool
  exact hpools.shares hx.played hy.played hpool

end LecturePlan

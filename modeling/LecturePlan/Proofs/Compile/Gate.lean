import LecturePlan.Proofs.Compile.Numbering
import LecturePlan.Proofs.Markup.Tags
/-!
# The budget gate

Before a plan leaves the compiler, the registry is asked for the backend of every speech section's
voice, and the section is held against the limits of that backend.  This module says what the gate
lets through and what it reports, without the code of either: `classify` lists the speech sections
with the answers, `Ceiling` says which counts a backend limits and how they are counted, and

* a plan that is compiled exceeds no ceiling (`WithinLimits`),
* a plan that is held back is reported with exactly the ceilings exceeded, each once and in the order
  of the sections (`ReportsExactly`).

Asking may change the registry.  So the answers are those given when the sections are gone through,
not those the walk was given, and two sections of one voice may get different ones.
-/

namespace LecturePlan

open LecturePlan.Markup

/-! ## 1. Sections and answers -/

/-- A speech section as it is measured. -/
structure Speech where
  id : Nat
  voice : String
  content : String

/-- A section as it is measured, if it is speech. -/
def Section.spoken? (s : Section) : Option Speech :=
  match s.kind with
  | .speech _ voice content => some ⟨s.id, voice, content⟩
  | _ => none

theorem Section.id_of_spoken? {s : Section} {speech : Speech} (h : s.spoken? = some speech) :
    speech.id = s.id := by
  unfold spoken? at h
  split at h
  · cases h
    rfl
  · cases h

section Answers

variable {ρ : Type} [VoiceRegistry ρ]

/-- The speech sections, each with what a registry answers when it is asked for their voices one after
the other. -/
def classify (registry : ρ) : List Section → List (Speech × RegistryAnswer)
  | [] => []
  | s :: ss =>
    match s.spoken? with
    | some speech =>
      let asked := VoiceRegistry.lookup registry speech.voice
      (speech, asked.1) :: classify asked.2 ss
    | none => classify registry ss

/-- All speech sections are asked for. -/
theorem map_fst_classify (registry : ρ) (ss : List Section) :
    (classify registry ss).map Prod.fst = ss.filterMap Section.spoken? := by
  induction ss generalizing registry with
  | nil => rfl
  | cons s ss ih =>
    cases hs : s.spoken? with
    | none =>
      rw [classify, hs, List.filterMap_cons_none hs]
      exact ih registry
    | some speech =>
      rw [classify, hs, List.filterMap_cons_some hs]
      exact congrArg (speech :: ·) (ih _)

end Answers

/-! ## 2. Ceilings -/

/-- **The counts of a content that a backend limits**, with their limits. -/
inductive Ceiling (content : List Char) : Backend → Overage → Nat → Nat → Prop
  | combined : Ceiling content .googleCloud .combined content.length 5000
  | markup {ts : List (List Char)} : FindsTags content ts →
      Ceiling content .amazonPolly .markup ts.flatten.length 3000
  | text {ts : List (List Char)} {rest : Nat} : FindsTags content ts →
      ts.flatten.length + rest = content.length → Ceiling content .amazonPolly .text rest 3000

/-- What is to be reported: a ceiling of a section that is exceeded. -/
structure Exceeded (answers : List (Speech × RegistryAnswer)) (v : BudgetViolation) : Prop where
  ceiling : ∃ speech backend, (speech, .ok (some backend)) ∈ answers ∧ v.sectionId = speech.id ∧
    Ceiling speech.content.toList backend v.kind v.length v.limit
  above : v.limit < v.length

/-- The order of reports: by section, and tags before the other characters. -/
def BudgetViolation.Before (v w : BudgetViolation) : Prop :=
  v.sectionId < w.sectionId ∨ v.sectionId = w.sectionId ∧ v.kind = .markup ∧ w.kind = .text

/-- **A report of exactly the ceilings exceeded.** -/
structure ReportsExactly (answers : List (Speech × RegistryAnswer)) (vs : List BudgetViolation) :
    Prop where
  sorted : vs.Pairwise BudgetViolation.Before
  mem_iff : ∀ v, v ∈ vs ↔ Exceeded answers v
  amount : ∀ v ∈ vs, v.limit + v.amount = v.length

/-- **No ceiling is exceeded.** -/
structure WithinLimits (answers : List (Speech × RegistryAnswer)) : Prop where
  google : ∀ speech, (speech, .ok (some .googleCloud)) ∈ answers →
    speech.content.toList.length ≤ 5000
  polly : ∀ speech ts, (speech, .ok (some .amazonPolly)) ∈ answers →
    FindsTags speech.content.toList ts →
      ts.flatten.length ≤ 3000 ∧ speech.content.toList.length ≤ ts.flatten.length + 3000

/-- If there is nothing to report, no ceiling is exceeded. -/
theorem ReportsExactly.withinLimits {answers : List (Speech × RegistryAnswer)}
    (h : ReportsExactly answers []) :
    WithinLimits answers := by
  have hle : ∀ speech backend kind length limit, (speech, .ok (some backend)) ∈ answers →
      Ceiling speech.content.toList backend kind length limit → length ≤ limit := by
    intro speech backend kind length limit hmem hceil
    refine Nat.le_of_not_lt fun habove => ?_
    exact absurd ((h.mem_iff ⟨speech.id, kind, length, limit⟩).mpr
      ⟨⟨speech, backend, hmem, rfl, hceil⟩, habove⟩) List.not_mem_nil
  refine ⟨fun speech hmem => hle _ _ _ _ _ hmem .combined, fun speech ts hmem hts => ?_⟩
  have hsum : ts.flatten.length + (speech.content.toList.length - ts.flatten.length) =
      speech.content.toList.length := Nat.add_sub_cancel' hts.flatten_sublist.length_le
  have hrest := hle _ _ _ _ _ hmem (.text hts hsum)
  exact ⟨hle _ _ _ _ _ hmem (.markup hts), by omega⟩

/-! ## 3. Measuring one section -/

theorem mem_checkLength {v : BudgetViolation} {id : Nat} {kind : Overage} {length limit : Nat} :
    v ∈ checkLength id kind length limit ↔ v = ⟨id, kind, length, limit⟩ ∧ limit < length := by
  unfold checkLength
  split <;> simp [*]

/-- A backend reports what exceeds its ceilings. -/
theorem mem_checkAnswer {v : BudgetViolation} {id : Nat} {voice content : String}
    {answer : RegistryAnswer} :
    v ∈ (checkAnswer id voice content answer).1 ↔
      (∃ backend, answer = .ok (some backend) ∧ v.sectionId = id ∧
        Ceiling content.toList backend v.kind v.length v.limit) ∧ v.limit < v.length := by
  obtain ⟨ts, hts⟩ := exists_findsTags content.toList
  have htags : tagLength content.toList = ts.flatten.length := hts.tagLength_eq
  constructor
  · intro h
    unfold checkAnswer at h
    split at h
    · next backend =>
      cases backend with
      | googleCloud =>
        obtain ⟨rfl, habove⟩ := mem_checkLength.mp h
        exact ⟨⟨_, rfl, rfl, .combined⟩, habove⟩
      | amazonPolly =>
        rcases List.mem_append.mp h with h | h
        · obtain ⟨rfl, habove⟩ := mem_checkLength.mp h
          exact ⟨⟨_, rfl, rfl, htags ▸ .markup hts⟩, habove⟩
        · obtain ⟨rfl, habove⟩ := mem_checkLength.mp h
          have hsum := Nat.add_sub_cancel' (tagLength_le content.toList)
          exact ⟨⟨_, rfl, rfl, .text hts (htags ▸ hsum)⟩, habove⟩
      | other => cases h
    · cases h
    · cases h
  · rintro ⟨⟨backend, rfl, rfl, hceil⟩, habove⟩
    obtain ⟨id, kind, length, limit⟩ := v
    cases hceil with
    | combined => exact mem_checkLength.mpr ⟨rfl, habove⟩
    | markup hts' =>
      rw [← hts'.tagLength_eq] at habove ⊢
      exact List.mem_append_left _ (mem_checkLength.mpr ⟨rfl, habove⟩)
    | text hts' hsum =>
      have hlength : length = content.toList.length - tagLength content.toList := by
        rw [hts'.tagLength_eq, ← hsum, Nat.add_sub_cancel_left]
      subst hlength
      exact List.mem_append_right _ (mem_checkLength.mpr ⟨rfl, habove⟩)

/-- A section's tags are reported before its other characters. -/
theorem sorted_checkAnswer (id : Nat) (voice content : String) (answer : RegistryAnswer) :
    (checkAnswer id voice content answer).1.Pairwise BudgetViolation.Before := by
  have hone : ∀ kind length limit,
      (checkLength id kind length limit).Pairwise BudgetViolation.Before := by
    intro kind length limit
    unfold checkLength
    split
    · exact List.pairwise_singleton _ _
    · exact List.Pairwise.nil
  unfold checkAnswer
  split
  · next backend =>
    cases backend with
    | googleCloud => exact hone _ _ _
    | amazonPolly =>
      refine List.pairwise_append.mpr ⟨hone _ _ _, hone _ _ _, fun v hv w hw => ?_⟩
      obtain ⟨rfl, -⟩ := mem_checkLength.mp hv
      obtain ⟨rfl, -⟩ := mem_checkLength.mp hw
      exact .inr ⟨rfl, rfl, rfl⟩
    | other => exact List.Pairwise.nil
  · exact List.Pairwise.nil
  · exact List.Pairwise.nil

/-! ## 4. Measuring all sections -/

section Measure

variable {ρ : Type} [VoiceRegistry ρ]

/-- A section that is not speech is passed over. -/
theorem violations_measure_cons_none {s : Section} (h : s.spoken? = none) (registry : ρ)
    (ss : List Section) :
    (measure registry (s :: ss)).violations = (measure registry ss).violations := by
  unfold Section.spoken? at h
  split at h
  · cases h
  · next hkind =>
    rw [measure]
    split
    · next frame voice content hs => exact absurd hs (hkind frame voice content)
    · rfl

/-- A speech section is measured first, and the registry it leaves is asked for the others. -/
theorem violations_measure_cons_some {s : Section} {speech : Speech} (h : s.spoken? = some speech)
    (registry : ρ) (ss : List Section) :
    (measure registry (s :: ss)).violations =
      (checkAnswer speech.id speech.voice speech.content
          (VoiceRegistry.lookup registry speech.voice).1).1 ++
        (measure (VoiceRegistry.lookup registry speech.voice).2 ss).violations := by
  unfold Section.spoken? at h
  split at h
  · next hkind =>
    cases h
    rw [measure, hkind]
  · cases h

theorem mem_violations_measure (registry : ρ) (ss : List Section) (v : BudgetViolation) :
    v ∈ (measure registry ss).violations ↔ Exceeded (classify registry ss) v := by
  induction ss generalizing registry with
  | nil =>
    refine ⟨fun h => absurd h List.not_mem_nil, ?_⟩
    rintro ⟨⟨speech, backend, hmem, -⟩, -⟩
    exact absurd hmem List.not_mem_nil
  | cons s ss ih =>
    cases hs : s.spoken? with
    | none =>
      rw [violations_measure_cons_none hs, classify, hs]
      exact ih registry
    | some speech =>
      rw [violations_measure_cons_some hs, List.mem_append, mem_checkAnswer, ih, classify, hs]
      constructor
      · rintro (⟨⟨backend, hans, hid, hceil⟩, habove⟩ | ⟨⟨other, backend, hmem, hrest⟩, habove⟩)
        · exact ⟨⟨speech, backend, hans ▸ List.mem_cons_self, hid, hceil⟩, habove⟩
        · exact ⟨⟨other, backend, List.mem_cons_of_mem _ hmem, hrest⟩, habove⟩
      · rintro ⟨⟨other, backend, hmem, hid, hceil⟩, habove⟩
        rcases List.mem_cons.mp hmem with heq | hmem
        · obtain ⟨rfl, hans⟩ := Prod.mk.inj heq
          exact .inl ⟨⟨backend, hans.symm, hid, hceil⟩, habove⟩
        · exact .inr ⟨⟨other, backend, hmem, hid, hceil⟩, habove⟩

/-- What is reported is about one of the sections. -/
theorem sectionId_mem_of_mem_measure {registry : ρ} {ss : List Section} {v : BudgetViolation}
    (h : v ∈ (measure registry ss).violations) : ∃ s ∈ ss, v.sectionId = s.id := by
  obtain ⟨⟨speech, backend, hmem, hid, -⟩, -⟩ := (mem_violations_measure registry ss v).mp h
  have hspeech : speech ∈ (classify registry ss).map Prod.fst := List.mem_map_of_mem hmem
  rw [map_fst_classify] at hspeech
  obtain ⟨s, hs, hspoken⟩ := List.mem_filterMap.mp hspeech
  exact ⟨s, hs, hid.trans (Section.id_of_spoken? hspoken)⟩

/-- Sections that are numbered in order are reported in order. -/
theorem sorted_measure (registry : ρ) {ss : List Section}
    (h : (ss.map Section.id).Pairwise (· < ·)) :
    (measure registry ss).violations.Pairwise BudgetViolation.Before := by
  induction ss generalizing registry with
  | nil => exact List.Pairwise.nil
  | cons s ss ih =>
    obtain ⟨hlt, hss⟩ := List.pairwise_cons.mp h
    cases hs : s.spoken? with
    | none =>
      rw [violations_measure_cons_none hs]
      exact ih registry hss
    | some speech =>
      rw [violations_measure_cons_some hs]
      refine List.pairwise_append.mpr ⟨sorted_checkAnswer _ _ _ _, ih _ hss, fun v hv w hw => ?_⟩
      obtain ⟨⟨-, -, hv, -⟩, -⟩ := mem_checkAnswer.mp hv
      obtain ⟨s', hs', hw⟩ := sectionId_mem_of_mem_measure hw
      left
      rw [hv, hw, Section.id_of_spoken? hs]
      exact hlt _ (List.mem_map_of_mem hs')

/-- **Sections that are numbered in order are measured exactly.** -/
theorem reports_measure (registry : ρ) {ss : List Section}
    (h : (ss.map Section.id).Pairwise (· < ·)) :
    ReportsExactly (classify registry ss) (measure registry ss).violations where
  sorted := sorted_measure registry h
  mem_iff := mem_violations_measure registry ss
  amount v hv :=
    Nat.add_sub_cancel' (Nat.le_of_lt ((mem_violations_measure registry ss v).mp hv).above)

/-! ## 5. The gate -/

/-- The sections that the walk leaves are numbered in order. -/
theorem sorted_ids_traverse (s : Scene) (c : Config) (root : Element) (registry : ρ) :
    ((traverse s c root registry).plan.sections.map Section.id).Pairwise (· < ·) := by
  have hstart : (Ledger.start root.tag).Numbers s.declarations
      (firstMarks (heard s.declarations [])) := by
    rw [heard_nil]
    exact .nil _ _
  have hids : (traverse s c root registry).plan.sections.map Section.id =
      List.range' 1 (traverse s c root registry).plan.sections.length :=
    ((keptBooks_numbers s.declarations root.tag).kept.traverse c root registry
      ⟨.start, hstart⟩).2.ids
  rw [hids]
  exact List.pairwise_lt_range'

/-- What the gate makes of sections with these answers. -/
def Gated (sections : List Section) (answers : List (Speech × RegistryAnswer)) :
    Except CompileError Plan → Prop
  | .ok plan => plan.sections = sections ∧ plan.sections ≠ [] ∧ WithinLimits answers
  | .error .noSections => sections = []
  | .error (.budgetExceeded vs) => vs ≠ [] ∧ ReportsExactly answers vs

/-- **The budget gate is exact.**  A plan is compiled if there are sections and none of them exceeds a
ceiling; else the error lists exactly the ceilings exceeded.  The counts this rests on add up for
every text: the tags that are found in it are part of it, and the rest are the other characters. -/
theorem gated_compile (s : Scene) (c : Config) (root : Element) (registry : ρ) :
    let done := traverse s c root registry
    let answers := classify done.registry done.plan.sections
    answers.map Prod.fst = done.plan.sections.filterMap Section.spoken? ∧
      Gated done.plan.sections answers (compile s c root registry).1 ∧
      ∀ text : List Char, ∃ ts, FindsTags text ts ∧ tagLength text = ts.flatten.length ∧
        tagLength text ≤ text.length ∧
        tagLength text + (text.length - tagLength text) = text.length := by
  intro done answers
  refine ⟨map_fst_classify _ _, ?_, fun text => ?_⟩
  · have hreports : ReportsExactly answers (measure done.registry done.plan.sections).violations :=
      reports_measure _ (sorted_ids_traverse s c root registry)
    have hsections : done.plan.pruneChapters.sections = done.plan.sections := rfl
    unfold compile
    dsimp only
    rw [hsections]
    split
    · next hempty => exact List.isEmpty_iff.mp hempty
    · next hne =>
      cases hvs : (measure done.registry done.plan.sections).violations with
      | nil =>
        rw [hvs] at hreports
        exact ⟨rfl, fun hnil => hne (List.isEmpty_iff.mpr hnil), hreports.withinLimits⟩
      | cons v vs =>
        rw [hvs] at hreports
        exact ⟨List.cons_ne_nil _ _, hreports⟩
  · obtain ⟨ts, hts⟩ := exists_findsTags text
    exact ⟨ts, hts, hts.tagLength_eq, tagLength_le text, Nat.add_sub_cancel' (tagLength_le text)⟩

end Measure

end LecturePlan

import LecturePlan.Proofs.Compile.Ledger
/-!
# The end mark cuts the document

Behind the end mark the walk still comes out of the elements around it: open elements are closed, scopes
end their last section and give the voice back, and the content root ends the last section of all.  None
of this may leave a trace.

Here the document itself is cut behind a mark (`Element.cutBehind`): the mark loses its children, and
everything behind it is gone.  What is left has the cues up to the mark, and compiling it gives what
compiling the whole document gives (`compile_cutBehind`): the plan with all warnings, or the error, and
the registry as it was left.  The proof compares the two walks node by node.  They are the same walk up to
the mark; at the mark the walk ends in both, and a walk that has ended changes nothing.
-/

namespace LecturePlan

open LecturePlan.Markup

/-! ## 1. The document up to a mark -/

/-- Whether a tag is the mark of a name, if one is given. -/
def Markup.Tag.isMark (name : Option String) (t : Tag) : Bool := (Cue.tag [] t).isMark name

mutual

/-- A node up to the first mark of a name that the walk comes across in it.  The mark loses its
children, and the elements around it lose what follows. -/
def Markup.Node.cutBehind? (name : Option String) : Node → Option Node
  | .text _ => none
  | .element tag children =>
    if isDeclaration tag.name || isClip tag.name then none
    else if tag.isMark name then some (.element tag [])
    else (cutAllBehind? name children).map (.element tag)

/-- Nodes that stand side by side up to the first mark of a name. -/
def cutAllBehind? (name : Option String) : List Node → Option (List Node)
  | [] => none
  | n :: ns =>
    match n.cutBehind? name with
    | some n' => some [n']
    | none => (cutAllBehind? name ns).map (n :: ·)

end

/-- **A document up to the first mark of a name** and with it; all of the document, if the walk comes
across no such mark. -/
def Markup.Element.cutBehind (name : Option String) (e : Element) : Element :=
  { e with children := (cutAllBehind? name e.children).getD e.children }

theorem isMark_of_clip {t : Tag} (h : isClip t.name = true) (name : Option String) :
    t.isMark name = false :=
  Cue.isMark_of_none (c := .tag [] t) (Tag.mark?_of_clip h) name

/-- Clips split. -/
theorem isSplitting_of_isClip {name : String} (h : isClip name = true) : isSplitting name = true := by
  rw [isClip, Bool.or_eq_true, beq_iff_eq, beq_iff_eq] at h
  rcases h with rfl | rfl <;> rfl

/-- Only splitting tags are marks. -/
theorem isSplitting_of_isMark {name : Option String} {t : Tag} (h : t.isMark name = true) :
    isSplitting t.name = true := by
  by_cases hname : t.name = "mark"
  · rw [hname]
    rfl
  · have hnone : (Cue.tag [] t).mark? = none := if_neg hname
    rw [Tag.isMark, Cue.isMark_of_none hnone] at h
    cases h

theorem cutAllBehind?_ne_nil {name : Option String} {ns : List Node} :
    cutAllBehind? name ns ≠ some [] := by
  cases ns with
  | nil => simp [cutAllBehind?]
  | cons n ns =>
    rw [cutAllBehind?]
    cases n.cutBehind? name <;> simp

/-! ### Its cues -/

theorem upToMark_append_of_not_any {name : Option String} {cs : List Cue}
    (h : cs.any (Cue.isMark name) = false) (ds : List Cue) :
    upToMark name (cs ++ ds) = cs ++ upToMark name ds := by
  induction cs with
  | nil => rfl
  | cons c cs ih =>
    rw [List.any_cons, Bool.or_eq_false_iff] at h
    simp [upToMark, h.1, ih h.2]

/-- What cutting does to cues: it finds a mark if there is one among them, and then leaves those up to
it. -/
def CutsCues (name : Option String) (before : List Cue) : Option (List Cue) → Prop
  | none => before.any (Cue.isMark name) = false
  | some after => before.any (Cue.isMark name) = true ∧ after = upToMark name before

mutual

theorem cutsCues_node (name : Option String) (around : List Tag) : ∀ n : Node,
    CutsCues name (n.cues around) ((n.cutBehind? name).map (Node.cues around))
  | .text s => by
    rw [Node.cutBehind?, Node.cues]
    simp [CutsCues, Cue.isMark_of_none (c := .text around s) rfl name]
  | .element tag children => by
    rw [Node.cutBehind?]
    cases hd : isDeclaration tag.name with
    | true =>
      rw [cues_of_declaration around children hd]
      rfl
    | false =>
      cases hc : isClip tag.name with
      | true =>
        have hs := isSplitting_of_isClip hc
        have hnot : (Cue.tag around tag).isMark name = false := isMark_of_clip hc name
        rw [cues_of_clip around children hd hs hc]
        simpa [CutsCues] using hnot
      | false =>
        cases hm : tag.isMark name with
        | true =>
          have hcue : (Cue.tag around tag).isMark name = true := hm
          have hs := isSplitting_of_isMark hm
          simp [cues_of_scope around _ hd hs hc, CutsCues, hcue, upToMark, cuesAll]
        | false =>
          have hcue : (Cue.tag around tag).isMark name = false := hm
          have hinner := cutsCues_nodes name (tag :: around) children
          cases hs : isSplitting tag.name with
          | false =>
            cases hcut : cutAllBehind? name children <;> rw [hcut] at hinner <;>
              simpa [cues_of_plain around _ hd hs, CutsCues] using hinner
          | true =>
            cases hcut : cutAllBehind? name children <;> rw [hcut] at hinner <;>
              simpa [cues_of_scope around _ hd hs hc, CutsCues, hcue, upToMark] using hinner

theorem cutsCues_nodes (name : Option String) (around : List Tag) : ∀ ns : List Node,
    CutsCues name (cuesAll around ns) ((cutAllBehind? name ns).map (cuesAll around))
  | [] => rfl
  | n :: ns => by
    have hn := cutsCues_node name around n
    have hns := cutsCues_nodes name around ns
    rw [cutAllBehind?, cuesAll]
    cases hcut : n.cutBehind? name with
    | some n' =>
      rw [hcut] at hn
      refine ⟨by rw [List.any_append, hn.1, Bool.true_or], ?_⟩
      rw [upToMark_of_any hn.1, ← hn.2]
      simp [cuesAll]
    | none =>
      rw [hcut] at hn
      have hnot : (n.cues around).any (Cue.isMark name) = false := hn
      cases hrest : cutAllBehind? name ns with
      | none =>
        rw [hrest] at hns
        have hnone : (cuesAll around ns).any (Cue.isMark name) = false := hns
        exact (List.any_append ..).trans (by rw [hnot, hnone, Bool.or_false])
      | some ns' =>
        rw [hrest] at hns
        refine ⟨by rw [List.any_append, hns.1, Bool.or_true], ?_⟩
        rw [upToMark_append_of_not_any hnot, ← hns.2]
        rfl

end

/-- The cues of a document that was cut are those up to the mark. -/
theorem cues_cutBehind (name : Option String) (e : Element) :
    (e.cutBehind name).cues = upToMark name e.cues := by
  have h := cutsCues_nodes name [] e.children
  unfold Element.cutBehind Element.cues
  cases hcut : cutAllBehind? name e.children with
  | none =>
    rw [hcut] at h
    exact (upToMark_of_not_any h).symm
  | some ns =>
    rw [hcut] at h
    exact h.2

/-! ## 2. The walk up to the end mark -/

variable {ρ : Type} [VoiceRegistry ρ] {s : Scene} {root : Tag} {around : List Tag} {seen : List Cue}
  {p : Progress ρ}

namespace Progress

/-- A walk that has ended goes on to the end of the document and changes nothing. -/
theorem visitAll_of_ended (he : p.ended = true) (ns : List Node) : p.visitAll s ns = p := by
  induction ns with
  | nil => rfl
  | cons n ns ih => rw [visitAll, visit_of_ended he, ih]

/-- At the end mark the walk ends, so what stands in the mark is not looked at. -/
theorem visit_endMark (ht : p.ledger.Tracks s.declarations root around seen) {tag : Tag}
    (hd : isDeclaration tag.name = false) (hc : isClip tag.name = false)
    (hm : tag.isMark s.declarations.endMark = true) (children : List Node) :
    p.visit s (.element tag []) = p.visit s (.element tag children) := by
  rcases Bool.eq_false_or_eq_true p.ended with he | he
  · rw [visit_of_ended he, visit_of_ended he]
  · have hs := isSplitting_of_isMark hm
    have hcue : (Cue.tag around tag).isMark s.declarations.endMark = true := hm
    have henter := (kept_tracks s root).enter ((kept_tracks s root).flush ht)
      ((ended_flush p).trans he) (hasText_flush he) hs hc
    have hended : (p.flush.enter s tag).ended = true := by
      have hended := henter.ended
      rwa [List.any_append, List.any_cons, hcue, Bool.true_or, Bool.or_true] at hended
    have hinner : ∀ ns : List Node, (if ns.isEmpty then p.flush.enter s tag
        else (visitAll s ns (p.flush.enter s tag)).flush) = p.flush.enter s tag := fun ns => by
      rw [visitAll_of_ended hended, flush_eq_self (.inl hended), ite_self]
    rw [visit_of_scope _ he hd hs hc, visit_of_scope _ he hd hs hc]
    dsimp only
    rw [hinner, hinner]

mutual

/-- A node and what is left of it up to the end mark are visited alike. -/
theorem visit_cutBehind? : ∀ {n n' : Node} {around : List Tag} {seen : List Cue} {p : Progress ρ},
    p.ledger.Tracks s.declarations root around seen →
    n.cutBehind? s.declarations.endMark = some n' → p.visit s n' = p.visit s n
  | .text text, n', around, seen, p, _, hcut => by cases hcut
  | .element tag children, n', around, seen, p, ht, hcut => by
    rw [Node.cutBehind?] at hcut
    split at hcut
    · cases hcut
    · next hlooked =>
      simp only [Bool.or_eq_true, not_or, Bool.not_eq_true] at hlooked
      obtain ⟨hd, hc⟩ := hlooked
      split at hcut
      · next hm =>
        cases hcut
        exact visit_endMark ht hd hc hm children
      · obtain ⟨children', hinner, rfl⟩ := Option.map_eq_some_iff.mp hcut
        rcases Bool.eq_false_or_eq_true p.ended with he | he
        · rw [visit_of_ended he, visit_of_ended he]
        cases hs : isSplitting tag.name with
        | false =>
          rw [visit_of_plain _ he hd hs, visit_of_plain _ he hd hs]
          dsimp only
          rw [visitAll_cutBehind? ((kept_tracks s root).openTag ht hs) hinner]
        | true =>
          have hf := (kept_tracks s root).flush ht
          have henter := (kept_tracks s root).enter hf ((ended_flush p).trans he)
            (hasText_flush he) hs hc
          have hne : children.isEmpty = false := by
            cases children with
            | nil => cases hinner
            | cons c cs => rfl
          have hne' : children'.isEmpty = false := by
            cases children' with
            | nil => exact absurd hinner cutAllBehind?_ne_nil
            | cons c cs => rfl
          rw [visit_of_scope _ he hd hs hc, visit_of_scope _ he hd hs hc, hne, hne']
          dsimp only
          rw [visitAll_cutBehind? henter hinner]

/-- So are nodes that stand side by side: in front of the end mark they are the same, and behind it
nothing happens. -/
theorem visitAll_cutBehind? :
    ∀ {ns ns' : List Node} {around : List Tag} {seen : List Cue} {p : Progress ρ},
      p.ledger.Tracks s.declarations root around seen →
      cutAllBehind? s.declarations.endMark ns = some ns' → p.visitAll s ns' = p.visitAll s ns
  | [], ns', around, seen, p, _, hcut => by cases hcut
  | n :: ns, ns', around, seen, p, ht, hcut => by
    have hvisit := (kept_tracks s root).visit n ht
    rw [cutAllBehind?] at hcut
    split at hcut
    · next n' hn =>
      cases hcut
      have hended : (p.visit s n).ended = true := by
        have hcues := cutsCues_node s.declarations.endMark around n
        rw [hn] at hcues
        have hended := hvisit.ended
        rwa [List.any_append, hcues.1, Bool.or_true] at hended
      rw [visitAll, visitAll, visitAll, visit_cutBehind? ht hn, visitAll_of_ended hended]
    · obtain ⟨ns', hrest, rfl⟩ := Option.map_eq_some_iff.mp hcut
      rw [visitAll, visitAll, visitAll_cutBehind? hvisit hrest]

end

end Progress

/-! ## 3. Compiling up to the end mark -/

theorem traverse_cutBehind (s : Scene) (c : Config) (root : Element) (registry : ρ) :
    traverse s c (root.cutBehind s.declarations.endMark) registry = traverse s c root registry := by
  unfold traverse Element.cutBehind
  cases hcut : cutAllBehind? s.declarations.endMark root.children with
  | none => rfl
  | some ns =>
    have hstart : (Progress.start s c root.tag registry).ledger.Tracks s.declarations root.tag [] [] :=
      .start
    dsimp only [Option.getD_some]
    rw [Progress.visitAll_cutBehind? hstart hcut]

/-- **The end mark cuts the document.**  A document that is cut behind the first end mark has the cues
up to that mark, and compiling it gives what compiling the whole document gives: the plan or the error,
the registry as it was left, and what is told on the way. -/
theorem compile_cutBehind (s : Scene) (c : Config) (root : Element) (registry : ρ) :
    (root.cutBehind s.declarations.endMark).cues = upToMark s.declarations.endMark root.cues ∧
      compile s c (root.cutBehind s.declarations.endMark) registry = compile s c root registry ∧
      compileNotices s c (root.cutBehind s.declarations.endMark) registry =
        compileNotices s c root registry := by
  refine ⟨cues_cutBehind _ root, ?_, ?_⟩
  · rw [compile, compile, traverse_cutBehind]
  · rw [compileNotices, compileNotices, traverse_cutBehind]

/-- The mark is kept without its children, and of the element around it what is in front of the mark. -/
example :
    (Element.cutBehind (some "end") ⟨⟨"speak", []⟩, [.text "One.",
      .element ⟨"p", []⟩ [.text "Two.",
        .element ⟨"mark", [("name", "end")]⟩ [.text "Three."], .text "Four."],
      .text "Five."]⟩).children =
    [.text "One.", .element ⟨"p", []⟩ [.text "Two.", .element ⟨"mark", [("name", "end")]⟩ []]] := by
  rfl

end LecturePlan

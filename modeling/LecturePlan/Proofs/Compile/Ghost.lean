import LecturePlan.Proofs.Compile.Cut
/-!
# Elements without text

The tree of a section holds copies of elements of the document, also of such that stand around the place
where a section was cut off.  A copy is a ghost if there is text in its element and none in the copy.  This
module says which copies are in the tree of a section, and which of them are ghosts (`elements_of_speech`).

The copies are those of the elements that are open at some place of the section's window (`Site.meets`), and
a copy has text iff text is read in its element in the window.  So an element that is neither open where the
section begins nor where it ends is there with all its text, and an element around one of these places is
kept whether it has text left or not.  It has a splitting tag in it, since this is where sections are cut.
-/

namespace LecturePlan

open LecturePlan.Markup

/-! ## 1. The elements of a document and of a tree -/

/-- An element that the walk opens: the place of the stroke that opens it, its tag and its children. -/
structure Site where
  opens : Nat
  tag : Tag
  children : List Node
deriving Inhabited, Repr

mutual

/-- The elements that the walk opens in a node whose first stroke is at place `i`, in document order. -/
def Markup.Node.sites (i : Nat) : Node → List Site
  | .text _ => []
  | .element tag children =>
    if isDeclaration tag.name then []
    else if !isSplitting tag.name then ⟨i, tag, children⟩ :: sitesAll (i + 1) children
    else if isClip tag.name then []
    else sitesAll (i + 1) children

/-- Those in nodes that stand side by side. -/
def sitesAll (i : Nat) : List Node → List Site
  | [] => []
  | n :: ns => n.sites i ++ sitesAll (i + n.strokes.length) ns

end

/-- The elements below the root of a document that the walk opens. -/
def Markup.Element.sites (root : Element) : List Site := sitesAll 1 root.children

mutual

/-- The elements of a tree, from the left to the right, each in front of those in it. -/
def Markup.Node.elements : Node → List Element
  | .text _ => []
  | .element tag children => ⟨tag, children⟩ :: elementsAll children

/-- Those of trees that stand side by side. -/
def elementsAll : List Node → List Element
  | [] => []
  | n :: ns => n.elements ++ elementsAll ns

end

@[simp] theorem elementsAll_append (ns ms : List Node) :
    elementsAll (ns ++ ms) = elementsAll ns ++ elementsAll ms := by
  induction ns with
  | nil => rfl
  | cons n ns ih => rw [List.cons_append, elementsAll, elementsAll, ih, List.append_assoc]

section Sites

variable {tag : Tag} (i : Nat) (children : List Node)

theorem sites_of_declaration (h : isDeclaration tag.name = true) :
    (Node.element tag children).sites i = [] := by
  rw [Node.sites, if_pos h]

theorem sites_of_plain (hd : isDeclaration tag.name = false) (hs : isSplitting tag.name = false) :
    (Node.element tag children).sites i = ⟨i, tag, children⟩ :: sitesAll (i + 1) children := by
  rw [Node.sites, hd, hs]
  rfl

theorem sites_of_clip (hd : isDeclaration tag.name = false) (hs : isSplitting tag.name = true)
    (hc : isClip tag.name = true) : (Node.element tag children).sites i = [] := by
  rw [Node.sites, hd, hs, hc]
  rfl

theorem sites_of_scope (hd : isDeclaration tag.name = false) (hs : isSplitting tag.name = true)
    (hc : isClip tag.name = false) :
    (Node.element tag children).sites i = sitesAll (i + 1) children := by
  rw [Node.sites, hd, hs, hc]
  rfl

end Sites

namespace Site

/-- The strokes of an element. -/
def strokes (e : Site) : List Stroke := .opening e.tag :: (strokesAll e.children ++ [.closing])

/-- The place of the stroke that closes an element. -/
def closes (e : Site) : Nat := e.opens + 1 + (strokesAll e.children).length

/-- Whether an element is open at some place of a window. -/
def meets (e : Site) (w : Window) : Bool := decide (w.start ≤ e.closes ∧ e.opens < w.stop)

/-- Whether an element is open when the walk comes to a place. -/
def isOpenAt (e : Site) (i : Nat) : Bool := decide (e.opens < i ∧ i ≤ e.closes)

/-- What of an element is in a window. -/
def copy (e : Site) (w : Window) : Element := ⟨e.tag, withinAll w (e.opens + 1) e.children⟩

end Site

mutual

/-- **The elements of a tree are the copies of the elements of the document that meet the window**, in the
same order. -/
theorem elements_within (w : Window) : ∀ (n : Node) (i : Nat),
    elementsAll (n.within w i) = ((n.sites i).filter (·.meets w)).map (·.copy w)
  | .text s, i => by
    rw [Node.within]
    split <;> rfl
  | .element tag children, i => by
    cases tag.kind with
    | declaration hd =>
      rw [within_of_declaration w i children hd, sites_of_declaration i children hd]
      rfl
    | plain hd hs =>
      have hinner := elementsAll_within w children (i + 1)
      rw [within_of_plain w i children hd hs, sites_of_plain i children hd hs]
      cases hmeets : (⟨i, tag, children⟩ : Site).meets w with
      | true =>
        have hin : w.start ≤ i + 1 + (strokesAll children).length ∧ i < w.stop :=
          of_decide_eq_true hmeets
        rw [if_pos hin, List.filter_cons, if_pos hmeets, List.map_cons, ← hinner]
        exact List.append_nil _
      | false =>
        have hout : ¬ (w.start ≤ i + 1 + (strokesAll children).length ∧ i < w.stop) :=
          of_decide_eq_false hmeets
        rw [withinAll_eq_nil (by omega)] at hinner
        rw [if_neg hout, List.filter_cons, hmeets, if_neg Bool.false_ne_true, ← hinner]
    | clip hd hs hc =>
      rw [within_of_clip w i children hd hs hc, sites_of_clip i children hd hs hc]
      rfl
    | scope hd hs hc =>
      rw [within_of_scope w i children hd hs hc, sites_of_scope i children hd hs hc]
      exact elementsAll_within w children (i + 1)

theorem elementsAll_within (w : Window) : ∀ (ns : List Node) (i : Nat),
    elementsAll (withinAll w i ns) = ((sitesAll i ns).filter (·.meets w)).map (·.copy w)
  | [], i => by
    rw [withinAll, sitesAll]
    rfl
  | n :: ns, i => by
    rw [withinAll, sitesAll, elementsAll_append, List.filter_append, List.map_append,
      elements_within w n i, elementsAll_within w ns]

end

/-! ## 2. Text in a window -/

/-- Whether text is read in a window, by strokes of which the first is at place `i`. -/
def TextIn (w : Window) (i : Nat) (σs : List Stroke) : Prop :=
  ∃ k s, σs[k]? = some (.text s) ∧ w.start ≤ i + k ∧ i + k < w.stop

theorem not_textIn_nil (w : Window) (i : Nat) : ¬ TextIn w i [] := fun ⟨_, _, h, _⟩ => by
  simp at h

theorem textIn_cons {w : Window} {i : Nat} {σ : Stroke} {σs : List Stroke} :
    TextIn w i (σ :: σs) ↔
      (∃ s, σ = .text s ∧ w.start ≤ i ∧ i < w.stop) ∨ TextIn w (i + 1) σs := by
  constructor
  · rintro ⟨_ | k, s, hk, hstart, hstop⟩
    · exact .inl ⟨s, Option.some.inj hk, hstart, hstop⟩
    · exact .inr ⟨k, s, hk, by omega, by omega⟩
  · rintro (⟨s, rfl, hstart, hstop⟩ | ⟨k, s, hk, hstart, hstop⟩)
    · exact ⟨0, s, rfl, hstart, hstop⟩
    · exact ⟨k + 1, s, hk, by omega, by omega⟩

theorem textIn_append {w : Window} {i : Nat} {σs τs : List Stroke} :
    TextIn w i (σs ++ τs) ↔ TextIn w i σs ∨ TextIn w (i + σs.length) τs := by
  induction σs generalizing i with
  | nil => simp [not_textIn_nil]
  | cons σ σs ih =>
    rw [List.cons_append, textIn_cons, textIn_cons, ih, List.length_cons, or_assoc,
      Nat.add_right_comm, Nat.add_assoc]

/-- Strokes around others that are no text add none. -/
theorem textIn_bracketed {w : Window} {i : Nat} {σ τ : Stroke} {σs : List Stroke}
    (hσ : ∀ s, σ ≠ .text s) (hτ : ∀ s, τ ≠ .text s) :
    TextIn w i (σ :: (σs ++ [τ])) ↔ TextIn w (i + 1) σs := by
  simp [textIn_cons, textIn_append, not_textIn_nil, hσ, hτ]

mutual

/-- **What of a node is in a window has text iff text of it is read there.** -/
theorem containsText_within (w : Window) : ∀ (n : Node) (i : Nat),
    containsTextAny (n.within w i) = true ↔ TextIn w i n.strokes
  | .text s, i => by
    rw [Node.within, Node.strokes, textIn_cons]
    split
    · next h => simp [containsTextAny, Node.containsText, h]
    · next h =>
      refine iff_of_false (by simp [containsTextAny]) ?_
      rintro (⟨_, -, hin⟩ | hin)
      · exact h hin
      · exact not_textIn_nil _ _ hin
  | .element tag children, i => by
    cases tag.kind with
    | declaration hd =>
      rw [within_of_declaration w i children hd, strokes_of_declaration children hd]
      exact iff_of_false (by simp [containsTextAny]) (not_textIn_nil w i)
    | plain hd hs =>
      rw [within_of_plain w i children hd hs, strokes_of_plain children hd hs,
        textIn_bracketed (by simp) (by simp), ← containsText_withinAll w children (i + 1)]
      split
      · simp [containsTextAny, Node.containsText]
      · next hmeets => rw [withinAll_eq_nil (by omega)]
    | clip hd hs hc =>
      rw [within_of_clip w i children hd hs hc, strokes_of_clip children hd hs hc]
      refine iff_of_false (by simp [containsTextAny]) ?_
      simp [textIn_cons, not_textIn_nil]
    | scope hd hs hc =>
      rw [within_of_scope w i children hd hs hc, strokes_of_scope children hd hs hc,
        textIn_bracketed (by simp) (by simp)]
      exact containsText_withinAll w children (i + 1)

theorem containsText_withinAll (w : Window) : ∀ (ns : List Node) (i : Nat),
    containsTextAny (withinAll w i ns) = true ↔ TextIn w i (strokesAll ns)
  | [], i => by
    rw [withinAll, strokesAll]
    exact iff_of_false (by simp [containsTextAny]) (not_textIn_nil w i)
  | n :: ns, i => by
    rw [withinAll, strokesAll, containsTextAny_append, Bool.or_eq_true, textIn_append,
      containsText_within w n i, containsText_withinAll w ns]

end

/-! ## 3. Elements around a cut -/

/-- Whether there is text in an element that the walk comes across. -/
def Site.HasText (e : Site) : Prop := ∃ s, .text s ∈ strokesAll e.children

/-- Whether there is a splitting tag in an element that the walk comes across. -/
def Site.Splits (e : Site) : Prop := ∃ t, .cut t ∈ strokesAll e.children

namespace Site

/-- An element that meets a window and is open at none of its ends lies in it. -/
theorem inside_of_meets {e : Site} {w : Window} (h : e.meets w = true)
    (hstart : e.isOpenAt w.start = false) (hstop : e.isOpenAt w.stop = false) :
    w.start ≤ e.opens ∧ e.closes < w.stop := by
  simp only [meets, isOpenAt, decide_eq_true_eq, decide_eq_false_iff_not] at h hstart hstop
  omega

/-- All of its text is read there. -/
theorem textIn_of_inside {e : Site} {w : Window} (h : w.start ≤ e.opens ∧ e.closes < w.stop)
    (ht : e.HasText) : TextIn w (e.opens + 1) (strokesAll e.children) := by
  obtain ⟨s, hs⟩ := ht
  obtain ⟨k, hk⟩ := List.getElem?_of_mem hs
  have hlt := (List.getElem?_eq_some_iff.mp hk).1
  have hcloses : e.closes = e.opens + 1 + (strokesAll e.children).length := rfl
  exact ⟨k, s, hk, by omega, by omega⟩

end Site

/-- What stands in strokes of which the first is at place `i`. -/
def StandsIn (i : Nat) (σs : List Stroke) (e : Site) : Prop :=
  ∃ before behind, σs = before ++ (e.strokes ++ behind) ∧ e.opens = i + before.length

theorem StandsIn.around {i : Nat} {σs : List Stroke} {e : Site} (before behind : List Stroke)
    (h : StandsIn (i + before.length) σs e) : StandsIn i (before ++ (σs ++ behind)) e := by
  obtain ⟨before', behind', rfl, hopens⟩ := h
  refine ⟨before ++ before', behind' ++ behind, by simp, ?_⟩
  rw [hopens, List.length_append, Nat.add_assoc]

mutual

/-- The elements stand where their places say. -/
theorem standsIn_of_mem_sites : ∀ {n : Node} {i : Nat} {e : Site}, e ∈ n.sites i →
    StandsIn i n.strokes e
  | .text s, i, e, he => by
    rw [Node.sites] at he
    cases he
  | .element tag children, i, e, he => by
    cases tag.kind with
    | declaration hd =>
      rw [sites_of_declaration i children hd] at he
      cases he
    | plain hd hs =>
      rw [sites_of_plain i children hd hs] at he
      rw [strokes_of_plain children hd hs]
      rcases List.mem_cons.mp he with rfl | he
      · exact ⟨[], [], by simp [Site.strokes], rfl⟩
      · exact (standsIn_of_mem_sitesAll he).around [_] _
    | clip hd hs hc =>
      rw [sites_of_clip i children hd hs hc] at he
      cases he
    | scope hd hs hc =>
      rw [sites_of_scope i children hd hs hc] at he
      rw [strokes_of_scope children hd hs hc]
      exact (standsIn_of_mem_sitesAll he).around [_] _

theorem standsIn_of_mem_sitesAll : ∀ {ns : List Node} {i : Nat} {e : Site}, e ∈ sitesAll i ns →
    StandsIn i (strokesAll ns) e
  | [], i, e, he => by
    rw [sitesAll] at he
    cases he
  | n :: ns, i, e, he => by
    rw [sitesAll] at he
    rw [strokesAll]
    rcases List.mem_append.mp he with he | he
    · exact (standsIn_of_mem_sites he).around [] _
    · have hall := (standsIn_of_mem_sitesAll he).around n.strokes []
      rwa [List.append_nil] at hall

end

theorem standsIn_of_mem {root : Element} {e : Site} (h : e ∈ root.sites) :
    StandsIn 0 root.strokes e := (standsIn_of_mem_sitesAll h).around [_] _

/-- **An element that is open where a section may end has a splitting tag in it.** -/
theorem splits_of_isOpenAt {root : Element} {e : Site} (he : e ∈ root.sites) {i : Nat}
    (h : SplitsAt root.strokes i) (hopen : e.isOpenAt i = true) : e.Splits := by
  obtain ⟨before, behind, hstrokes, hopens⟩ := standsIn_of_mem he
  obtain ⟨t, ht⟩ := h
  obtain ⟨hlt, hle⟩ : e.opens < i ∧ i ≤ e.opens + 1 + (strokesAll e.children).length :=
    of_decide_eq_true hopen
  obtain ⟨k, rfl⟩ : ∃ k, i = before.length + (k + 1) := ⟨i - before.length - 1, by omega⟩
  rw [hstrokes, List.getElem?_append_right (Nat.le_add_right _ _), Nat.add_sub_cancel_left,
    Site.strokes, List.cons_append, List.getElem?_cons_succ,
    List.getElem?_append_left (by rw [List.length_append, List.length_singleton]; omega)] at ht
  refine ⟨t, ?_⟩
  rcases List.mem_append.mp (List.mem_of_getElem? ht) with hmem | hmem
  · exact hmem
  · cases List.mem_singleton.mp hmem

/-! ## 4. The elements of the speech -/

variable {ρ : Type} [VoiceRegistry ρ]

/-- **Which elements are in the speech of a plan, and which of them are ghosts.**  Each speech section is the
part of the document in a window; the windows lie one behind the other, from the beginning of the document
or the start mark on, and a section ends where each of them ends.  The elements of a section below the root
are the copies of the elements that are open at some place of its window.  A copy has text iff text of its
element is read in the window.  So there is text in it if there is text in its element, unless the element
was open where the window begins or ends, and then there is a splitting tag in it. -/
theorem elements_of_speech (s : Scene) (c : Config) (root : Element) (registry : ρ) :
    ∃ (first last : Nat) (windows : List Window),
      BeginsAt s.declarations root.strokes first ∧ Tiled first windows last ∧
        (traverse s c root registry).plan.pruneChapters.speech =
          windows.map (fun w => tidyString (root.within w).toString) ∧
        ∀ w ∈ windows,
          SplitsAt root.strokes w.start ∧ SplitsAt root.strokes w.stop ∧
            elementsAll (root.within w).children =
              (root.sites.filter (·.meets w)).map (·.copy w) ∧
            ∀ e ∈ root.sites, e.meets w = true →
              (containsTextAny (e.copy w).children = true ↔
                TextIn w (e.opens + 1) (strokesAll e.children)) ∧
              (e.HasText → containsTextAny (e.copy w).children = true ∨
                (e.isOpenAt w.start = true ∨ e.isOpenAt w.stop = true) ∧ e.Splits) := by
  obtain ⟨first, last, windows, hbegins, htiled, hcuts, hspeech⟩ :=
    speech_eq_within s c root registry
  refine ⟨first, last, windows, hbegins, htiled, hspeech, fun w hw => ?_⟩
  obtain ⟨hstart, hstop⟩ := hcuts w hw
  refine ⟨hstart, hstop, elementsAll_within w root.children 1, fun e he hmeets => ?_⟩
  have htext := containsText_withinAll w e.children (e.opens + 1)
  refine ⟨htext, fun hhas => ?_⟩
  cases hs : e.isOpenAt w.start with
  | true => exact .inr ⟨.inl rfl, splits_of_isOpenAt he hstart hs⟩
  | false =>
    cases ht : e.isOpenAt w.stop with
    | true => exact .inr ⟨.inr rfl, splits_of_isOpenAt he hstop ht⟩
    | false => exact .inl (htext.mpr (Site.textIn_of_inside (Site.inside_of_meets hmeets hs ht) hhas))

/-- A paragraph with a mark at its beginning and one at its end.  It is open where the first section ends and
where the last one begins, and both of them have a ghost of it.  The content that is left for the last one is
the tree with the ghost. -/
theorem ghosts_of_cut_paragraph :
    let s : Scene := ⟨Declarations.empty, Path.ofString "/", fun _ => false, false⟩
    let registry : String → RegistryAnswer := fun _ => .ok (some .other)
    let p : Site := ⟨2, ⟨"p", []⟩, [.element ⟨"mark", [("name", "a")]⟩ [], .text "Hello.",
      .element ⟨"mark", [("name", "b")]⟩ []]⟩
    let root : Element := ⟨⟨"speak", []⟩, [.text "Hi.", .element p.tag p.children, .text "World."]⟩
    let rest := (Progress.visitAll s root.children (.start s .standard root.tag registry)).content
    let ghost : Element := ⟨p.tag, []⟩
    (traverse s .standard root registry).plan.pruneChapters.speech =
        ["<speak>Hi.<p/></speak>", "<speak><p>Hello.</p></speak>", "<speak><p/>World.</speak>"] ∧
      rest.render = "<speak><p/>World.</speak>" ∧
      root.sites = [p] ∧ p.HasText ∧
      elementsAll rest.tree.children = [ghost] ∧ elementsAll (root.within ⟨0, 3⟩).children = [ghost] ∧
      ¬ ∀ e ∈ elementsAll rest.tree.children, ∀ e' ∈ root.sites, e'.tag = e.tag → e'.HasText →
          containsTextAny e.children = true := by
  intro s registry p root rest ghost
  have hsites : root.sites = [p] := by rfl
  have htext : p.HasText := ⟨"Hello.", by decide +kernel⟩
  have hghost : elementsAll rest.tree.children = [ghost] := by rfl
  refine ⟨by decide +kernel, by decide +kernel, hsites, htext, hghost, by rfl, fun h => ?_⟩
  rw [hghost, hsites] at h
  cases h ghost List.mem_cons_self p List.mem_cons_self rfl htext

end LecturePlan

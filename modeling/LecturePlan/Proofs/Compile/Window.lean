import LecturePlan.Compile.Walk
/-!
# What is in a window of a document

The content of a section is built while the walk goes on, and the tree of a section is what has been built
when the section ends, as if all open elements were closed.  Here it is said without any state what this
tree is.  The walk through a document is a list of strokes, and each text and each element has its place in
it.  A section takes the strokes between two places (`Window`), and its tree is the part of the document in
this window (`Markup.Element.within`): the texts that stand in it, and the elements that are open at some
place of it.

Content that is built from the strokes of a window is a chain of open elements, and it is compared with the
part of the document (`Content.Takes`): they are the same where the window reaches to the end of an element,
and otherwise they have the same tree.
-/

namespace LecturePlan

open LecturePlan.Markup

/-! ## 1. Strokes -/

/-- What the walk does at one place: text is read, an element is opened or closed, or a section may end.
This is where a splitting tag is entered, and it is told which, and where one is left or the document begins
or ends. -/
inductive Stroke where
  | text (s : String)
  | opening (t : Tag)
  | closing
  | cut (t : Option Tag)
deriving DecidableEq, Repr

mutual

/-- The strokes of a node. -/
def Markup.Node.strokes : Node → List Stroke
  | .text s => [.text s]
  | .element tag children =>
    if isDeclaration tag.name then []
    else if !isSplitting tag.name then .opening tag :: (strokesAll children ++ [.closing])
    else if isClip tag.name then [.cut (some tag)]
    else .cut (some tag) :: (strokesAll children ++ [.cut none])

/-- The strokes of nodes that stand side by side. -/
def strokesAll : List Node → List Stroke
  | [] => []
  | n :: ns => n.strokes ++ strokesAll ns

end

/-- The strokes of a document. -/
def Markup.Element.strokes (root : Element) : List Stroke :=
  .cut none :: (strokesAll root.children ++ [.cut none])

section Strokes

variable {tag : Tag} (children : List Node)

theorem strokes_of_declaration (h : isDeclaration tag.name = true) :
    (Node.element tag children).strokes = [] := by
  rw [Node.strokes, if_pos h]

theorem strokes_of_plain (hd : isDeclaration tag.name = false) (hs : isSplitting tag.name = false) :
    (Node.element tag children).strokes = .opening tag :: (strokesAll children ++ [.closing]) := by
  rw [Node.strokes, hd, hs]
  rfl

theorem strokes_of_clip (hd : isDeclaration tag.name = false) (hs : isSplitting tag.name = true)
    (hc : isClip tag.name = true) : (Node.element tag children).strokes = [.cut (some tag)] := by
  rw [Node.strokes, hd, hs, hc]
  rfl

theorem strokes_of_scope (hd : isDeclaration tag.name = false) (hs : isSplitting tag.name = true)
    (hc : isClip tag.name = false) :
    (Node.element tag children).strokes =
      .cut (some tag) :: (strokesAll children ++ [.cut none]) := by
  rw [Node.strokes, hd, hs, hc]
  rfl

end Strokes

/-! ## 2. Windows -/

/-- The places from one on and in front of another. -/
structure Window where
  start : Nat
  stop : Nat
deriving DecidableEq, Repr

mutual

/-- **What of a node is in a window**, if its first stroke is at place `i`: its text, or the element with
what of its children is in the window, if it is open at some place there. -/
def Markup.Node.within (w : Window) (i : Nat) : Node → List Node
  | .text s => if w.start ≤ i ∧ i < w.stop then [.text s] else []
  | .element tag children =>
    if isDeclaration tag.name then []
    else if !isSplitting tag.name then
      if w.start ≤ i + 1 + (strokesAll children).length ∧ i < w.stop then
        [.element tag (withinAll w (i + 1) children)]
      else []
    else if isClip tag.name then []
    else withinAll w (i + 1) children

/-- What of nodes that stand side by side is in a window. -/
def withinAll (w : Window) (i : Nat) : List Node → List Node
  | [] => []
  | n :: ns => n.within w i ++ withinAll w (i + n.strokes.length) ns

end

/-- The part of a document in a window. -/
def Markup.Element.within (root : Element) (w : Window) : Element :=
  ⟨root.tag, withinAll w 1 root.children⟩

section Within

variable {tag : Tag} (w : Window) (i : Nat) (children : List Node)

theorem within_of_declaration (h : isDeclaration tag.name = true) :
    (Node.element tag children).within w i = [] := by
  rw [Node.within, if_pos h]

theorem within_of_plain (hd : isDeclaration tag.name = false) (hs : isSplitting tag.name = false) :
    (Node.element tag children).within w i =
      if w.start ≤ i + 1 + (strokesAll children).length ∧ i < w.stop then
        [.element tag (withinAll w (i + 1) children)]
      else [] := by
  rw [Node.within, hd, hs]
  rfl

theorem within_of_clip (hd : isDeclaration tag.name = false) (hs : isSplitting tag.name = true)
    (hc : isClip tag.name = true) : (Node.element tag children).within w i = [] := by
  rw [Node.within, hd, hs, hc]
  rfl

theorem within_of_scope (hd : isDeclaration tag.name = false) (hs : isSplitting tag.name = true)
    (hc : isClip tag.name = false) :
    (Node.element tag children).within w i = withinAll w (i + 1) children := by
  rw [Node.within, hd, hs, hc]
  rfl

end Within

mutual

/-- Nothing of a node is in a window that begins behind it or ends in front of it. -/
theorem within_eq_nil {w : Window} : ∀ {n : Node} {i : Nat},
    i + n.strokes.length ≤ w.start ∨ w.stop ≤ i → n.within w i = []
  | .text s, i, h => by
    rw [Node.strokes, List.length_singleton] at h
    rw [Node.within, if_neg (by omega)]
  | .element tag children, i, h => by
    cases tag.kind with
    | declaration hd =>
      exact within_of_declaration w i children hd
    | plain hd hs =>
      rw [strokes_of_plain children hd hs, List.length_cons, List.length_append,
        List.length_singleton] at h
      rw [within_of_plain w i children hd hs, if_neg (by omega)]
    | clip hd hs hc =>
      exact within_of_clip w i children hd hs hc
    | scope hd hs hc =>
      rw [strokes_of_scope children hd hs hc, List.length_cons, List.length_append,
        List.length_singleton] at h
      rw [within_of_scope w i children hd hs hc]
      exact withinAll_eq_nil (by omega)

theorem withinAll_eq_nil {w : Window} : ∀ {ns : List Node} {i : Nat},
    i + (strokesAll ns).length ≤ w.start ∨ w.stop ≤ i → withinAll w i ns = []
  | [], i, _ => by rw [withinAll]
  | n :: ns, i, h => by
    rw [strokesAll, List.length_append] at h
    rw [withinAll, within_eq_nil (by omega), withinAll_eq_nil (by omega), List.append_nil]

end

/-! ## 3. Content from strokes -/

namespace Content

/-- What a stroke does to the content. -/
def follow (c : Content) : Stroke → Content
  | .text s => c.addText s
  | .opening t => c.openTag t
  | .closing => c.close
  | .cut _ => c

/-- The content of a window, after strokes of which the first is at place `i`.  What is collected in front
of the window is dropped, and behind it nothing is collected. -/
def followIn (w : Window) (i : Nat) (c : Content) : List Stroke → Content
  | [] => c
  | σ :: σs =>
    if i < w.stop then
      followIn w (i + 1) (if i < w.start then (c.follow σ).reset else c.follow σ) σs
    else c

/-- Appends nodes to the children of the innermost open element. -/
def append (c : Content) (ns : List Node) : Content :=
  { c with inner := { c.inner with children := c.inner.children ++ ns } }

@[simp] theorem append_nil (c : Content) : c.append [] = c := by simp [append]

theorem append_append (c : Content) (ns ms : List Node) :
    (c.append ns).append ms = c.append (ns ++ ms) := by simp [append]

@[simp] theorem reset_append (c : Content) (ns : List Node) : (c.append ns).reset = c.reset := rfl

/-- An element that is opened, filled and closed is a node of the element around it. -/
theorem close_append_openTag (c : Content) (t : Tag) (ns : List Node) :
    ((c.openTag t).append ns).close = c.append [.element t ns] := rfl

/-- In the tree it is that before it is closed. -/
theorem tree_append_openTag (c : Content) (t : Tag) (ns : List Node) :
    ((c.openTag t).append ns).tree = (c.append [.element t ns]).tree := rfl

/-- What a stroke leaves after a reset depends on the elements that were open. -/
theorem reset_follow (c : Content) (σ : Stroke) : (c.follow σ).reset = (c.reset.follow σ).reset := by
  cases σ with
  | text s => exact (reset_reset c).symm
  | opening t => exact congrArg (openTag · t) (reset_reset c).symm
  | closing => exact reset_close c
  | cut t => exact (reset_reset c).symm

section FollowIn

variable {w : Window} {i : Nat} (c : Content)

theorem followIn_of_stop_le (h : w.stop ≤ i) (σs : List Stroke) : c.followIn w i σs = c := by
  cases σs with
  | nil => rfl
  | cons σ σs => rw [followIn, if_neg (Nat.not_lt.mpr h)]

theorem followIn_append (σs τs : List Stroke) :
    c.followIn w i (σs ++ τs) = (c.followIn w i σs).followIn w (i + σs.length) τs := by
  induction σs generalizing i c with
  | nil => rfl
  | cons σ σs ih =>
    rw [List.cons_append, followIn, followIn]
    split
    · rw [ih, List.length_cons, Nat.add_right_comm, Nat.add_assoc]
    · next h => rw [followIn_of_stop_le _ (by omega)]

/-- Strokes behind the window change nothing. -/
theorem followIn_append_of_stop_le {σs : List Stroke} (h : w.stop ≤ i + σs.length)
    (τs : List Stroke) : c.followIn w i (σs ++ τs) = c.followIn w i σs := by
  rw [followIn_append, followIn_of_stop_le _ h]

/-- A stroke in front of the window or in it. -/
theorem followIn_singleton (h : i < w.stop) (σ : Stroke) :
    c.followIn w i [σ] = if i < w.start then (c.follow σ).reset else c.follow σ := by
  rw [followIn, if_pos h, followIn]

/-- A window that begins behind the strokes keeps the elements that they leave open. -/
theorem followIn_of_le_start {start : Nat} {σs : List Stroke} (hstart : i + σs.length ≤ start)
    (hstop : i + σs.length ≤ w.stop) :
    c.reset.followIn ⟨start, w.stop⟩ i σs = (c.followIn w i σs).reset := by
  induction σs generalizing i c with
  | nil => rfl
  | cons σ σs ih =>
    rw [List.length_cons] at hstart hstop
    have hi : i < w.stop := by omega
    have hreset : (if i < w.start then (c.follow σ).reset else c.follow σ).reset =
        (c.reset.follow σ).reset := by
      split <;> simp [reset_follow c]
    rw [followIn, followIn, if_pos hi, if_pos hi, if_pos (by dsimp only; omega), ← hreset,
      ih _ (by omega) (by omega)]

/-- Nor does a cut in the window. -/
theorem followIn_concat_cut {σs : List Stroke} (h : w.start ≤ i + σs.length) (t : Option Tag) :
    c.followIn w i (σs ++ [.cut t]) = c.followIn w i σs := by
  by_cases hstop : i + σs.length < w.stop
  · rw [followIn_append, followIn_singleton _ hstop, if_neg (by omega), follow]
  · exact followIn_append_of_stop_le c (Nat.le_of_not_lt hstop) _

/-- When all is dropped at a cut, what is left is the content of a window that begins there. -/
theorem reset_followIn_concat_cut (σs : List Stroke) (hstart : w.start ≤ i + σs.length)
    (hstop : i + σs.length ≤ w.stop) (t : Option Tag) :
    (c.followIn w i (σs ++ [.cut t])).reset =
      c.reset.followIn ⟨i + σs.length, w.stop⟩ i (σs ++ [.cut t]) := by
  rw [followIn_concat_cut c hstart,
    followIn_concat_cut (w := ⟨i + σs.length, w.stop⟩) c.reset (Nat.le_refl _),
    followIn_of_le_start c (Nat.le_refl _) hstop]

end FollowIn

/-! ### The strokes of nodes -/

/-- **What strokes that begin at place `i` put into the content**: the nodes `ns`, if the window reaches to
their end, and otherwise as much of them as makes the same tree. -/
structure Takes (w : Window) (i : Nat) (c : Content) (σs : List Stroke) (ns : List Node) : Prop where
  whole : i + σs.length ≤ w.stop → c.followIn w i σs = c.append ns
  tree : (c.followIn w i σs).tree = (c.append ns).tree

namespace Takes

variable {w : Window} {i : Nat} {c : Content} {σs τs : List Stroke} {ns ms : List Node}

theorem of_whole (h : c.followIn w i σs = c.append ns) : c.Takes w i σs ns :=
  ⟨fun _ => h, congrArg Content.tree h⟩

/-- Behind the window nothing is taken. -/
theorem of_stop_le (h : w.stop ≤ i) : c.Takes w i σs [] :=
  of_whole (by rw [followIn_of_stop_le c h, append_nil])

/-- Strokes one after the other. -/
theorem trans (h : c.Takes w i σs ns)
    (h' : i + σs.length ≤ w.stop → (c.append ns).Takes w (i + σs.length) τs ms)
    (hms : w.stop < i + σs.length → ms = []) : c.Takes w i (σs ++ τs) (ns ++ ms) := by
  by_cases hstop : i + σs.length ≤ w.stop
  · have hrest := h' hstop
    constructor
    · intro hlen
      rw [List.length_append] at hlen
      rw [followIn_append, h.whole hstop, hrest.whole (by omega), append_append]
    · rw [followIn_append, h.whole hstop, hrest.tree, append_append]
  · have hlt : w.stop < i + σs.length := by omega
    constructor
    · intro hlen
      rw [List.length_append] at hlen
      omega
    · rw [followIn_append, followIn_of_stop_le _ (Nat.le_of_lt hlt), h.tree, hms hlt, List.append_nil]

/-- A cut takes nothing. -/
theorem cut (hc : i < w.start → c.reset = c) (t : Option Tag) : c.Takes w i [.cut t] [] := by
  by_cases hi : i < w.stop
  · refine of_whole ?_
    rw [followIn_singleton c hi, follow, append_nil]
    split
    · next hstart => exact hc hstart
    · rfl
  · exact of_stop_le (Nat.le_of_not_lt hi)

/-- What stands between two cuts. -/
theorem scope (hc : i < w.start → c.reset = c) (h : c.Takes w (i + 1) σs ns)
    (hns : i + 1 + σs.length ≤ w.start ∨ w.stop ≤ i + 1 → ns = []) (t t' : Option Tag) :
    c.Takes w i (.cut t :: (σs ++ [.cut t'])) ns := by
  have hinner : c.Takes w (i + 1) (σs ++ [.cut t']) (ns ++ []) := by
    refine h.trans (fun hstop => cut (fun hstart => ?_) t') fun _ => rfl
    rw [hns (.inl (Nat.le_of_lt hstart)), append_nil]
    exact hc (by omega)
  rw [List.append_nil] at hinner
  refine (cut hc t).trans (fun _ => ?_) fun hstop => hns (.inr (Nat.le_of_lt hstop))
  rwa [append_nil]

/-- What stands between the opening and the closing of an element. -/
theorem element (hw : w.start ≤ w.stop) (hc : i < w.start → c.reset = c) (t : Tag)
    (h : (c.openTag t).Takes w (i + 1) σs ns) :
    c.Takes w i (.opening t :: (σs ++ [.closing]))
      (if w.start ≤ i + 1 + σs.length ∧ i < w.stop then [.element t ns] else []) := by
  by_cases hi : i < w.stop
  · have hopen : c.followIn w i [.opening t] = c.openTag t := by
      rw [followIn_singleton c hi]
      split
      · next hstart => exact congrArg (Content.openTag · t) (hc hstart)
      · rfl
    have hinner : c.followIn w i (.opening t :: (σs ++ [.closing])) =
        ((c.openTag t).followIn w (i + 1) σs).followIn w (i + 1 + σs.length) [.closing] := by
      rw [← List.singleton_append, followIn_append, hopen, followIn_append]
      rfl
    by_cases hclose : i + 1 + σs.length < w.stop
    · refine of_whole ?_
      rw [hinner, h.whole (Nat.le_of_lt hclose), followIn_singleton _ hclose, follow, close_append_openTag]
      by_cases hstart : i + 1 + σs.length < w.start
      · rw [if_pos hstart, if_neg (by omega), reset_append, append_nil]
        exact hc (by omega)
      · rw [if_neg hstart, if_pos (by omega)]
    · -- the window ends in the element, which is not closed
      rw [if_pos (by omega)]
      constructor
      · intro hlen
        simp only [List.length_cons, List.length_append, List.length_nil] at hlen
        omega
      · rw [hinner, followIn_of_stop_le _ (Nat.le_of_not_lt hclose), h.tree, tree_append_openTag]
  · rw [if_neg (by omega)]
    exact of_stop_le (Nat.le_of_not_lt hi)

end Takes

variable {w : Window}

mutual

/-- **The strokes of a node put into the content what of the node is in the window.** -/
theorem takes_within (hw : w.start ≤ w.stop) : ∀ (n : Node) {i : Nat} {c : Content},
    (i < w.start → c.reset = c) → c.Takes w i n.strokes (n.within w i)
  | .text s, i, c, hc => by
    rw [Node.strokes, Node.within]
    by_cases hi : i < w.stop
    · refine .of_whole ?_
      rw [followIn_singleton c hi, follow]
      by_cases hstart : i < w.start
      · rw [if_pos hstart, if_neg (by omega), reset_addText, append_nil]
        exact hc hstart
      · rw [if_neg hstart, if_pos (by omega)]
        rfl
    · rw [if_neg (by omega)]
      exact .of_stop_le (Nat.le_of_not_lt hi)
  | .element tag children, i, c, hc => by
    cases tag.kind with
    | declaration hd =>
      rw [strokes_of_declaration children hd, within_of_declaration w i children hd]
      exact .of_whole (append_nil c).symm
    | plain hd hs =>
      rw [strokes_of_plain children hd hs, within_of_plain w i children hd hs]
      refine .element hw hc tag (takes_withinAll hw children fun hstart => ?_)
      exact congrArg (Content.openTag · tag) (hc (by omega))
    | clip hd hs hclip =>
      rw [strokes_of_clip children hd hs hclip, within_of_clip w i children hd hs hclip]
      exact .cut hc _
    | scope hd hs hclip =>
      rw [strokes_of_scope children hd hs hclip, within_of_scope w i children hd hs hclip]
      exact .scope hc (takes_withinAll hw children fun hstart => hc (by omega))
        withinAll_eq_nil _ _

/-- So do those of nodes that stand side by side. -/
theorem takes_withinAll (hw : w.start ≤ w.stop) : ∀ (ns : List Node) {i : Nat} {c : Content},
    (i < w.start → c.reset = c) → c.Takes w i (strokesAll ns) (withinAll w i ns)
  | [], i, c, _ => by
    rw [strokesAll, withinAll]
    exact .of_whole (append_nil c).symm
  | n :: ns, i, c, hc => by
    rw [strokesAll, withinAll]
    refine (takes_within hw n hc).trans (fun hstop => takes_withinAll hw ns fun hstart => ?_)
      fun hstop => withinAll_eq_nil (.inr (Nat.le_of_lt hstop))
    rw [within_eq_nil (.inl (Nat.le_of_lt hstart)), append_nil]
    exact hc (by omega)

end

/-- **The tree of a window is the part of the document in it.** -/
theorem tree_followIn_strokes (hw : w.start ≤ w.stop) (root : Element) :
    ((Content.start root.tag).followIn w 0 root.strokes).tree = root.within w := by
  have hstart : ∀ i, i < w.start → (Content.start root.tag).reset = Content.start root.tag :=
    fun _ _ => rfl
  exact (Takes.scope (hstart 0) (takes_withinAll hw root.children (hstart 1)) withinAll_eq_nil
    none none).tree

end Content

end LecturePlan

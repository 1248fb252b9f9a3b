import LecturePlan.Rewrite.Lecture
/-!
# The walk and the passes

Lookups, tokens and slides can be rewritten one after the other: one pass over the whole tree takes the
lookups away and speaks the words inside them, the next turns tokens into words, and the last puts a
pause behind every slide that has none behind it (`passes`).  `rewriteAll` does all three in one walk,
and the walk decides about a slide while the lookups are still there: it looks at what is written behind
the slide, and the last pass at what stands behind it when the lookups are gone.

So the two differ where a slide and a pause meet across the edge of a lookup.  Such a slide is
overlooked: the walk puts a pause behind it although one stands there in the end.  This module proves
that these are the only differences.  The walk makes exactly one pause too many for each overlooked
slide (`count_rewriteAll`), and the same tree as the passes iff no slide is overlooked
(`rewriteAll_eq_passes_iff`).
-/

namespace LecturePlan.Rewrite

open LecturePlan.Markup

/-! ## 1. The passes -/

mutual

/-- First pass, at a node: a lookup is taken away, and text in the scope of lookups is spoken through
their lexicons. -/
def unwrapNode (r : Rules) (active : List Lexicon) (spoken : Bool) : Node → List Node
  | .text s => if spoken || active.isEmpty then [.text s] else applyLexicons s active
  | .element tag children =>
    if isDeclaration tag.name then [.element tag children]
    else if tag.name = "lookup" then
      unwrapAll r ((r.lookup tag).1.toList ++ active) spoken children
    else [.element tag (unwrapAll r active (spoken || isSpokenForm tag.name) children)]

/-- First pass: lookups. -/
def unwrapAll (r : Rules) (active : List Lexicon) (spoken : Bool) : List Node → List Node
  | [] => []
  | n :: ns => unwrapNode r active spoken n ++ unwrapAll r active spoken ns

end

mutual

/-- Second pass, at a node. -/
def renameNode : Node → Node
  | .text s => .text s
  | .element tag children =>
    if isDeclaration tag.name then .element tag children
    else .element (renameToken tag) (renameAll children)

/-- Second pass: tokens become words. -/
def renameAll : List Node → List Node
  | [] => []
  | n :: ns => renameNode n :: renameAll ns

end

mutual

/-- Third pass, at a node; `paused` says whether a pause stands behind it. -/
def pauseSlide (ms : Nat) (paused : Bool) : Node → List Node
  | .text s => [.text s]
  | .element tag children =>
    if isDeclaration tag.name then [.element tag children]
    else
      .element tag (pauseSlides ms [] children) ::
        if tag.name = "slide" ∧ 0 < ms ∧ paused = false then [pause ms] else []

/-- Third pass: pauses behind slides.  `rest` is what stands behind the siblings. -/
def pauseSlides (ms : Nat) (rest : List Node) : List Node → List Node
  | [] => []
  | n :: ns => pauseSlide ms (startsWithBreak (ns ++ rest)) n ++ pauseSlides ms rest ns

end

/-- The three passes, one after the other. -/
def passes (r : Rules) (active : List Lexicon) (spoken : Bool) (ns : List Node) : List Node :=
  pauseSlides r.afterSlide [] (renameAll (unwrapAll r active spoken ns))

/-! ## 2. Overlooked slides -/

mutual

/-- Whether a node starts with a pause when lookups are taken away; `paused` says so of what stands
behind it. -/
def leadsNode (paused : Bool) : Node → Bool
  | .text _ => false
  | .element tag children =>
    if isDeclaration tag.name then false
    else if tag.name = "lookup" then leadsAll paused children
    else tag.name == "break"

/-- Whether siblings start with a pause when lookups are taken away. -/
def leadsAll (paused : Bool) : List Node → Bool
  | [] => paused
  | n :: ns => leadsNode (leadsAll paused ns) n

end

mutual

/-- The number of overlooked slides in a node.  A pause stands behind the node as it is written if
`written`, and when lookups are taken away if `paused`. -/
def overlookedNode (written paused : Bool) : Node → Nat
  | .text _ => 0
  | .element tag children =>
    if isDeclaration tag.name then 0
    else if tag.name = "lookup" then overlookedAll paused children
    else
      overlookedAll false children +
        if tag.name = "slide" ∧ written = false ∧ paused = true then 1 else 0

/-- The number of overlooked slides in siblings: those with no pause written behind them, but with one
behind them when lookups are taken away. -/
def overlookedAll (paused : Bool) : List Node → Nat
  | [] => 0
  | n :: ns =>
    overlookedNode (startsWithBreak ns) (leadsAll paused ns) n + overlookedAll paused ns

end

mutual

/-- The number of elements and text leaves of a node. -/
def countNode : Node → Nat
  | .text _ => 1
  | .element _ children => countAll children + 1

/-- The number of elements and text leaves of siblings and below them. -/
def countAll : List Node → Nat
  | [] => 0
  | n :: ns => countNode n + countAll ns

end

/-! ### Siblings -/

@[simp] theorem countAll_append (ms ns : List Node) :
    countAll (ms ++ ns) = countAll ms + countAll ns := by
  induction ms with
  | nil => simp [countAll]
  | cons m ms ih => rw [List.cons_append, countAll, countAll, ih, Nat.add_assoc]

@[simp] theorem renameAll_append (ms ns : List Node) :
    renameAll (ms ++ ns) = renameAll ms ++ renameAll ns := by
  induction ms with
  | nil => rfl
  | cons m ms ih => rw [List.cons_append, renameAll, renameAll, ih, List.cons_append]

@[simp] theorem renameAll_singleton (n : Node) : renameAll [n] = [renameNode n] := rfl

theorem pauseSlides_append (ms : Nat) (xs ys rest : List Node) :
    pauseSlides ms rest (xs ++ ys) = pauseSlides ms (ys ++ rest) xs ++ pauseSlides ms rest ys := by
  induction xs with
  | nil => simp [pauseSlides]
  | cons x xs ih =>
    rw [List.cons_append, pauseSlides, pauseSlides, ih, List.append_assoc, List.append_assoc]

theorem pauseSlides_singleton (ms : Nat) (rest : List Node) (n : Node) :
    pauseSlides ms rest [n] = pauseSlide ms (startsWithBreak rest) n := by
  rw [pauseSlides, pauseSlides, List.append_nil, List.nil_append]

/-! ### Text -/

/-- What becomes of text in the first pass: text, and words that are spoken in another way. -/
def Spelled (n : Node) : Prop := (∃ s, n = .text s) ∨ ∃ l alphabet, n = spokenForm l alphabet

theorem spelled_replaceGrapheme (text : String) (l : Lexeme) (alphabet : Option String) :
    replaceGrapheme text l alphabet ≠ [] ∧ ∀ n ∈ replaceGrapheme text l alphabet, Spelled n := by
  unfold replaceGrapheme
  dsimp only
  split
  · next h =>
    refine ⟨fun hnil => ?_, fun n hn => ?_⟩
    · rw [List.map_eq_nil_iff.mp hnil] at h
      cases h
    · obtain ⟨piece, -, rfl⟩ := List.mem_map.mp hn
      cases piece with
      | plain s => exact .inl ⟨_, rfl⟩
      | word => exact .inr ⟨l, alphabet, rfl⟩
  · exact ⟨List.cons_ne_nil _ _, fun n hn => .inl ⟨text, List.mem_singleton.mp hn⟩⟩

theorem spelled_applyEntry (e : Entry) {ns : List Node} (hne : ns ≠ []) (h : ∀ n ∈ ns, Spelled n) :
    applyEntry e ns ≠ [] ∧ ∀ n ∈ applyEntry e ns, Spelled n := by
  have hnode : ∀ n, Spelled n → applyEntry e [n] ≠ [] ∧ ∀ m ∈ applyEntry e [n], Spelled m := by
    intro n hn
    rw [applyEntry, List.flatMap_singleton]
    rcases hn with ⟨s, rfl⟩ | ⟨l, alphabet, rfl⟩
    · exact spelled_replaceGrapheme s e.1 e.2
    · exact ⟨List.cons_ne_nil _ _, fun m hm => .inr ⟨l, alphabet, List.mem_singleton.mp hm⟩⟩
  have hmem : ∀ m, m ∈ applyEntry e ns ↔ ∃ n ∈ ns, m ∈ applyEntry e [n] := by
    intro m
    simp [applyEntry, List.mem_flatMap]
  refine ⟨?_, fun m hm => ?_⟩
  · obtain ⟨n, hn⟩ := List.exists_mem_of_ne_nil ns hne
    obtain ⟨m, hm⟩ := List.exists_mem_of_ne_nil _ (hnode n (h n hn)).1
    exact List.ne_nil_of_mem ((hmem m).mpr ⟨n, hn, hm⟩)
  · obtain ⟨n, hn, hm⟩ := (hmem m).mp hm
    exact (hnode n (h n hn)).2 m hm

theorem spelled_applyLexicons (text : String) (active : List Lexicon) :
    applyLexicons text active ≠ [] ∧ ∀ n ∈ applyLexicons text active, Spelled n := by
  have hfold : ∀ (es : List Entry) (ns : List Node), (ns ≠ [] ∧ ∀ n ∈ ns, Spelled n) →
      (es.foldl (fun pieces e => applyEntry e pieces) ns ≠ [] ∧
        ∀ n ∈ es.foldl (fun pieces e => applyEntry e pieces) ns, Spelled n) := by
    intro es
    induction es with
    | nil => exact fun ns h => h
    | cons e es ih => exact fun ns h => ih _ (spelled_applyEntry e h.1 h.2)
  exact hfold _ _ ⟨List.cons_ne_nil _ _, fun n hn => .inl ⟨text, List.mem_singleton.mp hn⟩⟩

/-- The other passes leave such text as it is, and no pause stands in front of it. -/
theorem renameAll_of_spelled {ns : List Node} (h : ∀ n ∈ ns, Spelled n) : renameAll ns = ns := by
  induction ns with
  | nil => rfl
  | cons n ns ih =>
    obtain ⟨hn, hns⟩ := List.forall_mem_cons.mp h
    have hrename : renameNode n = n := by
      rcases hn with ⟨s, rfl⟩ | ⟨⟨g, kind, spoken⟩, alphabet, rfl⟩
      · rfl
      · cases kind <;> cases alphabet <;> rfl
    rw [renameAll, hrename, ih hns]

theorem pauseSlides_of_spelled {ns : List Node} (h : ∀ n ∈ ns, Spelled n) (ms : Nat)
    (rest : List Node) : pauseSlides ms rest ns = ns := by
  induction ns with
  | nil => rfl
  | cons n ns ih =>
    obtain ⟨hn, hns⟩ := List.forall_mem_cons.mp h
    have hpause : ∀ paused, pauseSlide ms paused n = [n] := by
      intro paused
      rcases hn with ⟨s, rfl⟩ | ⟨⟨g, kind, spoken⟩, alphabet, rfl⟩
      · rfl
      · cases kind <;> cases alphabet <;> rfl
    rw [pauseSlides, hpause, ih hns, List.singleton_append]

theorem startsWithBreak_of_spelled {ns : List Node} (hne : ns ≠ []) (h : ∀ n ∈ ns, Spelled n)
    (rest : List Node) : startsWithBreak (ns ++ rest) = false := by
  cases ns with
  | nil => exact absurd rfl hne
  | cons n ns =>
    rcases h n List.mem_cons_self with ⟨s, rfl⟩ | ⟨⟨g, kind, spoken⟩, alphabet, rfl⟩
    · rfl
    · cases kind <;> cases alphabet <;> rfl

/-- The walk treats text as the first pass does. -/
theorem spelled_unwrapNode (r : Rules) (active : List Lexicon) (spoken : Bool) (text : String) :
    unwrapNode r active spoken (.text text) ≠ [] ∧
      ∀ n ∈ unwrapNode r active spoken (.text text), Spelled n := by
  rw [unwrapNode]
  split
  · exact ⟨List.cons_ne_nil _ _, fun n hn => .inl ⟨text, List.mem_singleton.mp hn⟩⟩
  · exact spelled_applyLexicons text active

/-! ### Names -/

theorem isDeclaration_renameToken {tag : Tag} (h : isDeclaration tag.name = false) :
    isDeclaration (renameToken tag).name = false := by
  unfold renameToken
  split
  · rfl
  · exact h

theorem renameToken_name_eq_iff (tag : Tag) {name : String} (ht : name ≠ "token") (hw : name ≠ "w") :
    (renameToken tag).name = name ↔ tag.name = name := by
  unfold renameToken
  split
  · next h =>
    rw [h]
    exact ⟨fun h' => absurd h'.symm hw, fun h' => absurd h'.symm ht⟩
  · exact Iff.rfl

theorem isSpokenForm_renameToken (tag : Tag) :
    isSpokenForm (renameToken tag).name = isSpokenForm tag.name := by
  unfold renameToken
  split
  · next h =>
    rw [h]
    rfl
  · rfl

/-! ## 3. What stands behind a slide in the end -/

mutual

/-- `leadsNode` foresees whether a pause comes first when lookups are gone. -/
theorem startsWithBreak_unwrapNode (r : Rules) (rest : List Node) :
    ∀ (n : Node) (active : List Lexicon) (spoken : Bool),
      startsWithBreak (renameAll (unwrapNode r active spoken n) ++ rest) =
        leadsNode (startsWithBreak rest) n
  | .text s, active, spoken => by
    obtain ⟨hne, hspelled⟩ := spelled_unwrapNode r active spoken s
    rw [renameAll_of_spelled hspelled, startsWithBreak_of_spelled hne hspelled, leadsNode]
  | .element tag children, active, spoken => by
    rw [unwrapNode, leadsNode]
    split
    · next hd =>
      have hname : tag.name ≠ "break" := by
        rintro hname
        rw [hname] at hd
        revert hd
        decide
      rw [renameAll_singleton, renameNode, if_pos hd]
      simp [startsWithBreak, Node.isNamed, hname]
    · next hd =>
      split
      · exact startsWithBreak_unwrapAll r rest children _ spoken
      · have hname : (renameToken tag).name = "break" ↔ tag.name = "break" :=
          renameToken_name_eq_iff tag (by decide) (by decide)
        rw [renameAll_singleton, renameNode, if_neg hd, List.singleton_append, startsWithBreak,
          Node.isNamed, Bool.eq_iff_iff, beq_iff_eq, beq_iff_eq]
        exact hname

/-- So does `leadsAll` for siblings. -/
theorem startsWithBreak_unwrapAll (r : Rules) (rest : List Node) :
    ∀ (ns : List Node) (active : List Lexicon) (spoken : Bool),
      startsWithBreak (renameAll (unwrapAll r active spoken ns) ++ rest) =
        leadsAll (startsWithBreak rest) ns
  | [], active, spoken => rfl
  | n :: ns, active, spoken => by
    rw [unwrapAll, leadsAll, renameAll_append, List.append_assoc,
      startsWithBreak_unwrapNode r _ n active spoken,
      startsWithBreak_unwrapAll r rest ns active spoken]

end

/-- A pause that is written first comes first in the end. -/
theorem leadsAll_of_startsWithBreak {ns : List Node} (h : startsWithBreak ns = true)
    (paused : Bool) : leadsAll paused ns = true := by
  cases ns with
  | nil => cases h
  | cons n ns =>
    cases n with
    | text s => cases h
    | element tag children =>
      have hname : tag.name = "break" := by simpa [startsWithBreak, Node.isNamed] using h
      rw [leadsAll, leadsNode, hname]
      rfl

/-! ## 4. The walk and the passes side by side -/

/-- `Padded ms k xs ys` says that `xs` are the siblings `ys` with `k` more pauses. -/
inductive Padded (ms : Nat) : Nat → List Node → List Node → Prop
  | refl (ns : List Node) : Padded ms 0 ns ns
  | append {j k : Nat} {xs ys xs' ys' : List Node} :
      Padded ms j xs ys → Padded ms k xs' ys' → Padded ms (j + k) (xs ++ xs') (ys ++ ys')
  | element {k : Nat} (tag : Tag) {xs ys : List Node} :
      Padded ms k xs ys → Padded ms k [.element tag xs] [.element tag ys]
  | pause : Padded ms 1 [pause ms] []

theorem Padded.count_eq {ms k : Nat} {xs ys : List Node} (h : Padded ms k xs ys) :
    countAll xs = countAll ys + k := by
  induction h with
  | refl ns => rfl
  | append _ _ ih ih' =>
    rw [countAll_append, countAll_append, ih, ih']
    omega
  | element tag _ ih =>
    simp only [countAll, countNode, ih]
    omega
  | pause => rfl

theorem Padded.eq_of_zero {ms k : Nat} {xs ys : List Node} (h : Padded ms k xs ys) (hk : k = 0) :
    xs = ys := by
  induction h with
  | refl ns => rfl
  | append _ _ ih ih' =>
    obtain ⟨hj, hk⟩ := Nat.add_eq_zero_iff.mp hk
    rw [ih hj, ih' hk]
  | element tag _ ih => rw [ih hk]
  | pause => cases hk

/-- The pauses that come of some overlooked slides: none if there are no pauses behind slides. -/
def Rules.surplus (r : Rules) (overlooked : Nat) : Nat := if 0 < r.afterSlide then overlooked else 0

@[simp] theorem Rules.surplus_zero (r : Rules) : r.surplus 0 = 0 := ite_self 0

theorem Rules.surplus_add (r : Rules) (j k : Nat) : r.surplus (j + k) = r.surplus j + r.surplus k := by
  unfold surplus
  split <;> rfl

/-- Behind one slide the walk puts the pause that the last pass puts there, or one that it does not. -/
theorem padded_pause (r : Rules) (tag : Tag) {written paused : Bool}
    (h : written = true → paused = true) :
    Padded r.afterSlide
      (r.surplus (if tag.name = "slide" ∧ written = false ∧ paused = true then 1 else 0))
      (if tag.name = "slide" ∧ 0 < r.afterSlide ∧ written = false then [pause r.afterSlide] else [])
      (if tag.name = "slide" ∧ 0 < r.afterSlide ∧ paused = false then [pause r.afterSlide] else []) := by
  unfold Rules.surplus
  by_cases hslide : tag.name = "slide" <;> by_cases hms : 0 < r.afterSlide <;>
    cases written <;> cases paused <;> simp_all [Padded.refl, Padded.pause]

mutual

/-- At a node: `rest` is what stands behind it when lookups are gone. -/
theorem padded_rewriteNode (r : Rules) : ∀ (n : Node) (active : List Lexicon) (spoken written : Bool)
    (rest : List Node), (written = true → startsWithBreak rest = true) →
      Padded r.afterSlide (r.surplus (overlookedNode written (startsWithBreak rest) n))
        (rewriteNode r active spoken written n).1
        (pauseSlides r.afterSlide rest (renameAll (unwrapNode r active spoken n)))
  | .text s, active, spoken, written, rest, _ => by
    obtain ⟨-, hspelled⟩ := spelled_unwrapNode r active spoken s
    rw [renameAll_of_spelled hspelled, pauseSlides_of_spelled hspelled, rewriteNode, unwrapNode,
      overlookedNode, r.surplus_zero]
    exact .refl _
  | .element tag children, active, spoken, written, rest, hwritten => by
    rw [rewriteNode, unwrapNode, overlookedNode]
    split
    · next hd =>
      rw [renameAll_singleton, renameNode, if_pos hd, pauseSlides_singleton, pauseSlide, if_pos hd,
        r.surplus_zero]
      exact .refl _
    · next hd =>
      split
      · exact padded_rewriteAll r children _ spoken rest
      · have hd' := isDeclaration_renameToken (Bool.eq_false_iff.mpr hd)
        have hslide : (renameToken tag).name = "slide" ↔ tag.name = "slide" :=
          renameToken_name_eq_iff tag (by decide) (by decide)
        have hchildren := padded_rewriteAll r children active (spoken || isSpokenForm tag.name) []
        have hpause := padded_pause r (renameToken tag) hwritten
        rw [renameAll_singleton, renameNode, if_neg hd, pauseSlides_singleton, pauseSlide,
          if_neg (Bool.eq_false_iff.mp hd'), Rules.surplus_add]
        simp only [hslide] at hpause ⊢
        rw [isSpokenForm_renameToken]
        exact (hchildren.element (renameToken tag)).append hpause

/-- **The walk beside the passes**: it makes the same siblings, with a pause more for each slide that is
overlooked. -/
theorem padded_rewriteAll (r : Rules) : ∀ (ns : List Node) (active : List Lexicon) (spoken : Bool)
    (rest : List Node),
      Padded r.afterSlide (r.surplus (overlookedAll (startsWithBreak rest) ns))
        (rewriteAll r active spoken ns).1
        (pauseSlides r.afterSlide rest (renameAll (unwrapAll r active spoken ns)))
  | [], active, spoken, rest => by
    rw [rewriteAll, unwrapAll, overlookedAll, r.surplus_zero]
    exact .refl []
  | n :: ns, active, spoken, rest => by
    have hbehind := startsWithBreak_unwrapAll r rest ns active spoken
    have hfirst := padded_rewriteNode r n active spoken (startsWithBreak ns)
      (renameAll (unwrapAll r active spoken ns) ++ rest)
      fun h => hbehind ▸ leadsAll_of_startsWithBreak h _
    rw [hbehind] at hfirst
    rw [rewriteAll, unwrapAll, overlookedAll, renameAll_append, pauseSlides_append,
      Rules.surplus_add]
    exact hfirst.append (padded_rewriteAll r ns active spoken rest)

end

/-! ## 5. When they agree -/

/-- The walk makes as many nodes as the passes, and one more for each slide that is overlooked. -/
theorem count_rewriteAll (r : Rules) (active : List Lexicon) (spoken : Bool) (ns : List Node) :
    countAll (rewriteAll r active spoken ns).1 =
      countAll (passes r active spoken ns) + r.surplus (overlookedAll false ns) :=
  (padded_rewriteAll r ns active spoken []).count_eq

/-- **The walk does what the passes do, one after the other, iff no slide is overlooked**, or no pauses
are wanted behind slides. -/
theorem rewriteAll_eq_passes_iff (r : Rules) (active : List Lexicon) (spoken : Bool)
    (ns : List Node) :
    (rewriteAll r active spoken ns).1 = passes r active spoken ns ↔
      r.afterSlide = 0 ∨ overlookedAll false ns = 0 := by
  have hsurplus : r.surplus (overlookedAll false ns) = 0 ↔
      r.afterSlide = 0 ∨ overlookedAll false ns = 0 := by
    unfold Rules.surplus
    split <;> omega
  rw [← hsurplus]
  constructor
  · intro heq
    have hcount := count_rewriteAll r active spoken ns
    rw [heq] at hcount
    omega
  · exact (padded_rewriteAll r ns active spoken []).eq_of_zero

/-- A slide in front of a lookup that starts with a pause is overlooked: the walk puts a second pause
between them. -/
theorem rewriteAll_ne_passes :
    (rewriteAll ⟨[], 300⟩ [] false
        [.element ⟨"slide", [("page", "next")]⟩ [],
          .element ⟨"lookup", [("ref", "cs")]⟩ [.element ⟨"break", [("time", "1s")]⟩ []]]).1 ≠
      passes ⟨[], 300⟩ [] false
        [.element ⟨"slide", [("page", "next")]⟩ [],
          .element ⟨"lookup", [("ref", "cs")]⟩ [.element ⟨"break", [("time", "1s")]⟩ []]] := by
  intro h
  have hcount := congrArg countAll h
  revert hcount
  decide

end LecturePlan.Rewrite

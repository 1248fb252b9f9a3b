import LecturePlan.Rewrite.Lecture
/-!
# The wording of a lecture

Rewriting changes how words are spoken and where one pauses, and not what is written.  To say so, the
tree is read without what rewriting is for: `plainAll` takes lookups, pronunciations and pauses away
and calls tokens words, and `joinAll` puts text together that has been cut.  What is left is the
`wording`.  Declarations are no part of it and are left as they are.

`Rewritten` lists what rewriting may do to siblings, one rule for each kind of change, and closes this
under siblings and parents.  Each rule keeps the wording (`Rewritten.wording_eq`) and every character
of text (`Rewritten.charsAll_eq`), so a pass over the tree is right if all it does is among the rules.
-/

namespace LecturePlan.Rewrite

open LecturePlan.Markup

/-! ## 1. Wording -/

/-- Names of the elements that say how their children are spoken. -/
def isPronunciation (name : String) : Bool := name == "lookup" || name == "sub" || name == "phoneme"

mutual

/-- A node without pronunciations and pauses, with tokens as words. -/
def plainNode : Node → List Node
  | .text s => [.text s]
  | .element tag children =>
    if isDeclaration tag.name then [.element tag children]
    else if isPronunciation tag.name then plainAll children
    else if tag.name = "break" then []
    else [.element { tag with name := if tag.name = "token" then "w" else tag.name }
      (plainAll children)]

/-- Siblings without pronunciations and pauses, with tokens as words. -/
def plainAll : List Node → List Node
  | [] => []
  | n :: ns => plainNode n ++ plainAll ns

end

/-- Puts a node in front of siblings.  Empty text is left out, and text is put together with the text
behind it. -/
def joinFront : Node → List Node → List Node
  | .text s, .text t :: ns => .text (s ++ t) :: ns
  | .text s, ns => if s = "" then ns else .text s :: ns
  | n, ns => n :: ns

mutual

/-- Puts text together below a node. -/
def joinNode : Node → Node
  | .text s => .text s
  | .element tag children =>
    if isDeclaration tag.name then .element tag children else .element tag (joinAll children)

/-- Puts text together in siblings and below them. -/
def joinAll : List Node → List Node
  | [] => []
  | n :: ns => joinFront (joinNode n) (joinAll ns)

end

/-- The wording of siblings. -/
def wording (ns : List Node) : List Node := joinAll (plainAll ns)

mutual

/-- The characters of all text of a node, wherever it stands. -/
def charsNode : Node → List Char
  | .text s => s.toList
  | .element _ children => charsAll children

/-- The characters of all text of siblings. -/
def charsAll : List Node → List Char
  | [] => []
  | n :: ns => charsNode n ++ charsAll ns

end

/-! ### Siblings -/

@[simp] theorem plainAll_append (ms ns : List Node) :
    plainAll (ms ++ ns) = plainAll ms ++ plainAll ns := by
  induction ms with
  | nil => rfl
  | cons m ms ih => rw [List.cons_append, plainAll, plainAll, ih, List.append_assoc]

@[simp] theorem plainAll_singleton (n : Node) : plainAll [n] = plainNode n := by
  rw [plainAll, plainAll, List.append_nil]

@[simp] theorem charsAll_append (ms ns : List Node) :
    charsAll (ms ++ ns) = charsAll ms ++ charsAll ns := by
  induction ms with
  | nil => rfl
  | cons m ms ih => rw [List.cons_append, charsAll, charsAll, ih, List.append_assoc]

@[simp] theorem charsAll_singleton (n : Node) : charsAll [n] = charsNode n := by
  rw [charsAll, charsAll, List.append_nil]

/-- Siblings in front of others whose text has been put together. -/
def joinOnto (ns rest : List Node) : List Node :=
  ns.foldr (fun n rest => joinFront (joinNode n) rest) rest

theorem joinAll_eq_joinOnto (ns : List Node) : joinAll ns = joinOnto ns [] := by
  induction ns with
  | nil => rfl
  | cons n ns ih =>
    rw [joinAll, ih]
    rfl

theorem joinOnto_append (ms ns rest : List Node) :
    joinOnto (ms ++ ns) rest = joinOnto ms (joinOnto ns rest) := List.foldr_append

/-- In front of siblings that do not start with text there is nothing to put together. -/
theorem joinFront_of_ne_text {rest : List Node} (h : ∀ u ns, rest ≠ .text u :: ns) (s : String) :
    joinFront (.text s) rest = if s = "" then rest else .text s :: rest := by
  cases rest with
  | nil => rfl
  | cons n ns =>
    cases n with
    | text u => exact absurd rfl (h u ns)
    | element tag children => rfl

/-- Text that has been cut is put together again, whatever follows. -/
theorem joinFront_cut (s t : String) (rest : List Node) :
    joinFront (.text s) (joinFront (.text t) rest) = joinFront (.text (s ++ t)) rest := by
  by_cases h : ∀ u ns, rest ≠ .text u :: ns
  · rw [joinFront_of_ne_text h t, joinFront_of_ne_text h (s ++ t)]
    by_cases ht : t = ""
    · rw [if_pos ht, ht, String.append_empty, joinFront_of_ne_text h]
    · have hst : s ++ t ≠ "" := fun hempty => ht (String.append_eq_empty_iff.mp hempty).2
      rw [if_neg ht, if_neg hst]
      rfl
  · obtain ⟨u, ns, rfl⟩ : ∃ u ns, rest = .text u :: ns := by simpa using h
    rw [joinFront, joinFront, joinFront, String.append_assoc]

/-- Empty text is left out, whatever follows. -/
theorem joinFront_empty (rest : List Node) : joinFront (.text "") rest = rest := by
  cases rest with
  | nil => rfl
  | cons n rest =>
    cases n with
    | text u => rw [joinFront, String.empty_append]
    | element tag children => rfl

/-! ### Elements -/

section Elements

variable {tag : Tag} (children : List Node)

theorem plainNode_of_pronunciation (hd : isDeclaration tag.name = false)
    (h : isPronunciation tag.name = true) :
    plainNode (.element tag children) = plainAll children := by
  rw [plainNode, if_neg (by simp [hd]), if_pos h]

theorem plainNode_of_break (h : tag.name = "break") : plainNode (.element tag children) = [] := by
  rw [plainNode, h, if_neg (by decide), if_neg (by decide), if_pos rfl]

theorem plainNode_of_kept (hd : isDeclaration tag.name = false)
    (hp : isPronunciation tag.name = false) (hb : tag.name ≠ "break") :
    plainNode (.element tag children) =
      [.element { tag with name := if tag.name = "token" then "w" else tag.name }
        (plainAll children)] := by
  rw [plainNode, if_neg (by simp [hd]), if_neg (by simp [hp]), if_neg hb]

/-- A token reads as a word. -/
theorem plainNode_of_token (h : tag.name = "token") :
    plainNode (.element { tag with name := "w" } children) = plainNode (.element tag children) := by
  have hword : plainNode (.element ⟨"w", tag.attributes⟩ children) =
      [.element ⟨"w", tag.attributes⟩ (plainAll children)] :=
    plainNode_of_kept children (show isDeclaration "w" = false by decide)
      (show isPronunciation "w" = false by decide) (show "w" ≠ "break" by decide)
  rw [hword, plainNode_of_kept children, if_pos h] <;> rw [h] <;> decide

theorem joinNode_of_not_declaration (h : isDeclaration tag.name = false) :
    joinNode (.element tag children) = .element tag (joinAll children) := by
  rw [joinNode, if_neg (by simp [h])]

end Elements

/-! ## 2. What rewriting may do -/

/-- **What rewriting may make of siblings.**  `Rewritten ms ns` says that `ms` may stand where `ns`
stood. -/
inductive Rewritten : List Node → List Node → Prop
  | refl (ns : List Node) : Rewritten ns ns
  | trans {ls ms ns : List Node} : Rewritten ls ms → Rewritten ms ns → Rewritten ls ns
  | append {ms ns ms' ns' : List Node} :
      Rewritten ms ns → Rewritten ms' ns' → Rewritten (ms ++ ms') (ns ++ ns')
  /-- Declarations are left as they are. -/
  | element {tag : Tag} {ms ns : List Node} :
      isDeclaration tag.name = false → Rewritten ms ns →
        Rewritten [.element tag ms] [.element tag ns]
  /-- Text may be cut. -/
  | cut (s t : String) : Rewritten [.text s, .text t] [.text (s ++ t)]
  | empty : Rewritten [] [.text ""]
  /-- A lookup may be taken away. -/
  | lookup {tag : Tag} (ns : List Node) :
      tag.name = "lookup" → Rewritten ns [.element tag ns]
  /-- Text may be spoken in another way. -/
  | spell {tag : Tag} (s : String) :
      isSpokenForm tag.name = true → Rewritten [.element tag [.text s]] [.text s]
  | token {tag : Tag} (ns : List Node) :
      tag.name = "token" → Rewritten [.element { tag with name := "w" } ns] [.element tag ns]
  | pause (ms : Nat) : Rewritten [pause ms] []

theorem isPronunciation_of_isSpokenForm {name : String} (h : isSpokenForm name = true) :
    isPronunciation name = true ∧ isDeclaration name = false := by
  simp only [isSpokenForm, Bool.or_eq_true, beq_iff_eq] at h
  rcases h with rfl | rfl <;> decide

namespace Rewritten

/-- Rewriting below an element changes its wording as it changes that of the children. -/
theorem joinOnto_element {tag : Tag} {ms ns : List Node} (hd : isDeclaration tag.name = false)
    (h : ∀ rest, joinOnto (plainAll ms) rest = joinOnto (plainAll ns) rest) (rest : List Node) :
    joinOnto (plainNode (.element tag ms)) rest = joinOnto (plainNode (.element tag ns)) rest := by
  cases hp : isPronunciation tag.name with
  | true =>
    rw [plainNode_of_pronunciation ms hd hp, plainNode_of_pronunciation ns hd hp]
    exact h rest
  | false =>
    by_cases hb : tag.name = "break"
    · rw [plainNode_of_break ms hb, plainNode_of_break ns hb]
    · have hname : isDeclaration (if tag.name = "token" then "w" else tag.name) = false := by
        split
        · rfl
        · exact hd
      rw [plainNode_of_kept ms hd hp hb, plainNode_of_kept ns hd hp hb, joinOnto, joinOnto,
        List.foldr_cons, List.foldr_cons, joinNode_of_not_declaration _ hname,
        joinNode_of_not_declaration _ hname, joinAll_eq_joinOnto, joinAll_eq_joinOnto, h]

/-- Rewriting keeps the wording, whatever follows the siblings that are rewritten. -/
theorem joinOnto_eq {ms ns : List Node} (h : Rewritten ms ns) :
    ∀ rest, joinOnto (plainAll ms) rest = joinOnto (plainAll ns) rest := by
  induction h with
  | refl ns => exact fun _ => rfl
  | trans _ _ ih ih' => exact fun rest => (ih rest).trans (ih' rest)
  | append _ _ ih ih' =>
    intro rest
    rw [plainAll_append, plainAll_append, joinOnto_append, joinOnto_append, ih', ih]
  | element hd _ ih =>
    intro rest
    rw [plainAll_singleton, plainAll_singleton]
    exact joinOnto_element hd ih rest
  | cut s t => exact fun rest => joinFront_cut s t rest
  | empty => exact fun rest => (joinFront_empty rest).symm
  | lookup ns hname =>
    intro rest
    rw [plainAll_singleton, plainNode_of_pronunciation ns] <;> rw [hname] <;> decide
  | spell s hname =>
    intro rest
    obtain ⟨hp, hd⟩ := isPronunciation_of_isSpokenForm hname
    rw [plainAll_singleton, plainNode_of_pronunciation _ hd hp]
  | token ns hname =>
    intro rest
    rw [plainAll_singleton, plainAll_singleton, plainNode_of_token ns hname]
  | pause ms => exact fun rest => rfl

/-- **Rewriting keeps the wording.** -/
theorem wording_eq {ms ns : List Node} (h : Rewritten ms ns) : wording ms = wording ns := by
  rw [wording, wording, joinAll_eq_joinOnto, joinAll_eq_joinOnto, h.joinOnto_eq]

/-- **Rewriting keeps every character of text**, also of text that is no part of the wording. -/
theorem charsAll_eq {ms ns : List Node} (h : Rewritten ms ns) : charsAll ms = charsAll ns := by
  induction h with
  | refl ns => rfl
  | trans _ _ ih ih' => exact ih.trans ih'
  | append _ _ ih ih' => rw [charsAll_append, charsAll_append, ih, ih']
  | element _ _ ih => rw [charsAll_singleton, charsAll_singleton, charsNode, charsNode, ih]
  | cut s t =>
    rw [charsAll, charsAll_singleton, charsAll_singleton, charsNode, charsNode, charsNode,
      String.toList_append]
  | empty => rfl
  | lookup ns _ => rw [charsAll_singleton, charsNode]
  | spell s _ => rw [charsAll_singleton, charsNode]
  | token ns _ => rw [charsAll_singleton, charsAll_singleton, charsNode, charsNode]
  | pause ms => rfl

end Rewritten

end LecturePlan.Rewrite

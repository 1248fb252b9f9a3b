import LecturePlan.Markup.Reader
import Mathlib.Data.List.Nodup
/-!
# Normal trees

A tree can be written and read back if its names can be told from markup (`Node.Legible`) and its text
is in one piece (`Node.Whole`): two leaves that stand side by side are read as one, a blank leaf is not
read at all, and of two attributes with one key the second is refused.

Names are the writer's business, since reading accepts nearly everything as a name.  The rest is what
reading gives: this module proves that every tree that is read is whole (`whole_of_read`).  The stack of
open elements is the place to look.  Text is put behind the children of the innermost of them, which do
not end with text, and only when an element follows; so all open elements are whole and the innermost
does not end with text.
-/

namespace LecturePlan.Markup

open LecturePlan.Text

/-! ## 1. Legible names -/

/-- Characters of names: letters and digits and four signs.  Beyond ASCII every character will do, since
no markup is made of them. -/
def isNameChar (c : Char) : Bool :=
  c.isAlphanum || c == '-' || c == '_' || c == '.' || c == ':' || 128 ≤ c.toNat

/-- A name that can be told from the markup around it. -/
structure IsName (s : List Char) : Prop where
  nonempty : s ≠ []
  chars : ∀ c ∈ s, isNameChar c = true

/-- A tag with names that can be told from the markup around them. -/
structure Tag.Legible (t : Tag) : Prop where
  name : IsName t.name.toList
  keys : ∀ a ∈ t.attributes, IsName a.1.toList

instance (s : List Char) : Decidable (IsName s) :=
  decidable_of_iff (s ≠ [] ∧ s.all isNameChar = true)
    ⟨fun h => ⟨h.1, List.all_eq_true.mp h.2⟩, fun h => ⟨h.nonempty, List.all_eq_true.mpr h.chars⟩⟩

instance (t : Tag) : Decidable t.Legible :=
  decidable_of_iff (IsName t.name.toList ∧ t.attributes.all (fun a => IsName a.1.toList) = true)
    ⟨fun h => ⟨h.1, fun a ha => of_decide_eq_true (List.all_eq_true.mp h.2 a ha)⟩,
      fun h => ⟨h.name, List.all_eq_true.mpr fun a ha => decide_eq_true (h.keys a ha)⟩⟩

mutual

/-- All names of a node and below it can be told from markup. -/
def Node.Legible : Node → Prop
  | .text _ => True
  | .element tag children => tag.Legible ∧ LegibleAll children

/-- So can those of some siblings. -/
def LegibleAll : List Node → Prop
  | [] => True
  | n :: ns => n.Legible ∧ LegibleAll ns

end

/-! ## 2. Whole text -/

/-- Whether a node is a text leaf. -/
def Node.isText : Node → Bool
  | .text _ => true
  | .element .. => false

/-- Whether siblings start with text. -/
def startsWithText (ns : List Node) : Bool := ns.head?.any Node.isText

/-- Whether siblings end with text. -/
def endsWithText (ns : List Node) : Bool := ns.getLast?.any Node.isText

/-- No two attributes of a tag have one key. -/
def Tag.Distinct (t : Tag) : Prop := (t.attributes.map Prod.fst).Nodup

instance (t : Tag) : Decidable t.Distinct :=
  inferInstanceAs (Decidable (t.attributes.map Prod.fst).Nodup)

mutual

/-- Text is in one piece: no leaf is blank, and no two stand side by side.  No tag below has a key
twice. -/
def Node.Whole : Node → Prop
  | .text s => allBlank s.toList = false
  | .element tag children => tag.Distinct ∧ WholeAll children

/-- So it is in siblings. -/
def WholeAll : List Node → Prop
  | [] => True
  | n :: ns => n.Whole ∧ (n.isText && startsWithText ns) = false ∧ WholeAll ns

end

/-- An element whose names can be told from markup. -/
def Element.Legible (e : Element) : Prop := e.toNode.Legible

/-- An element whose text is in one piece. -/
def Element.Whole (e : Element) : Prop := e.toNode.Whole

/-- **A normal tree**: one that can be written and read back. -/
structure Element.Normal (e : Element) : Prop where
  legible : e.Legible
  whole : e.Whole

@[simp] theorem endsWithText_concat (ns : List Node) (n : Node) :
    endsWithText (ns ++ [n]) = n.isText := by
  simp [endsWithText]

/-- A node may be put behind siblings, unless text would follow text. -/
theorem WholeAll.concat {n : Node} (hn : n.Whole) : ∀ {ns : List Node}, WholeAll ns →
    (endsWithText ns && n.isText) = false → WholeAll (ns ++ [n])
  | [], _, _ => ⟨hn, by simp [startsWithText], trivial⟩
  | [m], ⟨hm, _, _⟩, hlast => ⟨hm, hlast, hn, by simp [startsWithText], trivial⟩
  | m :: m' :: ms, ⟨hm, hfirst, hms⟩, hlast =>
    ⟨hm, hfirst, WholeAll.concat hn hms (by simpa [endsWithText] using hlast)⟩

/-! ## 3. Tags that are read -/

/-- A step that follows another succeeds only if the other does. -/
theorem eq_ok_of_bind {ε α β : Type} {x : Except ε α} {f : α → Except ε β} {b : β}
    (h : x >>= f = .ok b) : ∃ a, x = .ok a ∧ f a = .ok b := by
  cases x with
  | error e => cases h
  | ok a => exact ⟨a, rfl, h⟩

/-- No key is read twice, and none that was read before. -/
theorem keys_of_readAttributes {name content : List Char} {keys : List (List Char × Nat)}
    {s : List Char} {as : List Attribute} (h : readAttributes name content keys s = .ok as) :
    (as.map Prod.fst).Nodup ∧ ∀ a ∈ as, keys.lookup a.1.toList = none := by
  fun_induction readAttributes name content keys s generalizing as with
  | case1 =>
    cases h
    exact ⟨List.nodup_nil, fun a ha => absurd ha List.not_mem_nil⟩
  | case2 | case3 | case4 | case6 => cases h
  | case5 keys s c t _ start cut v _ hfree raw rest _ value _ =>
    rename_i ih
    obtain ⟨more, hmore, h⟩ := eq_ok_of_bind h
    cases h
    obtain ⟨hnodup, hnew⟩ := ih hmore
    have hother : ∀ a ∈ more, a.1.toList ≠ cut.1 ∧ keys.lookup a.1.toList = none := by
      intro a ha
      have hnone := hnew a ha
      rw [List.lookup_append, Option.or_eq_none_iff] at hnone
      have hne := List.lookup_eq_none_iff.mp hnone.2 (cut.1, start) (List.mem_singleton.mpr rfl)
      exact ⟨fun heq => by simp [heq] at hne, hnone.1⟩
    refine ⟨List.nodup_cons.mpr ⟨fun hmem => ?_, hnodup⟩, fun a ha => ?_⟩
    · obtain ⟨a, ha, hkey⟩ := List.mem_map.mp hmem
      exact (hother a ha).1 (by rw [hkey, String.toList_ofList])
    · rcases List.mem_cons.mp ha with rfl | ha
      · rwa [String.toList_ofList]
      · exact (hother a ha).2

theorem distinct_of_read {content : List Char} {t : Tag} (h : Tag.read content = .ok t) :
    t.Distinct := by
  obtain ⟨as, has, h⟩ := eq_ok_of_bind h
  cases h
  exact (keys_of_readAttributes has).1

/-! ## 4. Trees that are read -/

namespace Building

/-- **A tree in the making is whole.**  Its innermost open element does not end with text, so pending
text may be put there. -/
structure Whole (b : Building) : Prop where
  opened : ∀ e ∈ b.opened, e.Whole
  ready : ∀ e ∈ b.opened.head?, endsWithText e.children = false
  root : ∀ e ∈ b.root, e.Whole

theorem whole_append {n : Node} (hn : n.Whole) {es : List Element} (h : ∀ e ∈ es, e.Whole)
    (hlast : ∀ e ∈ es.head?, (endsWithText e.children && n.isText) = false) :
    ∀ e ∈ append n es, e.Whole := by
  cases es with
  | nil => exact fun e he => absurd he List.not_mem_nil
  | cons e es =>
    obtain ⟨he, hes⟩ := List.forall_mem_cons.mp h
    refine List.forall_mem_cons.mpr ⟨⟨he.1, he.2.concat hn (hlast e rfl)⟩, hes⟩

/-- Once pending text has been put into it, every open element is still whole. -/
theorem Whole.flush {b : Building} (h : b.Whole) : ∀ e ∈ b.flush.opened, e.Whole := by
  unfold Building.flush
  split
  · exact h.opened
  · next hblank =>
    have htext : (Node.text (String.ofList b.pending)).Whole := by
      rw [Node.Whole, String.toList_ofList]
      exact Bool.eq_false_iff.mpr hblank
    exact whole_append htext h.opened fun e he => by rw [h.ready e he, Bool.false_and]

@[simp] theorem root_flush (b : Building) : b.flush.root = b.root := by
  unfold Building.flush
  split <;> rfl

/-- An element ends the children that it is put behind. -/
theorem whole_attach {b b' : Building} (hopened : ∀ e ∈ b.opened, e.Whole)
    (hroot : ∀ e ∈ b.root, e.Whole) {e : Element} (he : e.Whole) (h : b.attach e = .ok b') :
    b'.Whole := by
  unfold attach at h
  split at h
  · next around es hes =>
    cases h
    refine ⟨whole_append he hopened fun _ _ => Bool.and_false _, fun a ha => ?_, hroot⟩
    rw [hes, append, List.head?_cons, Option.mem_some_iff] at ha
    rw [← ha, endsWithText_concat]
    rfl
  · next hes =>
    split at h
    · cases h
      refine ⟨hopened, fun a ha => ?_, fun a ha => ?_⟩
      · rw [hes] at ha
        cases ha
      · cases ha
        exact he
    · cases h

theorem Whole.addText {b : Building} (h : b.Whole) (s : List Char) : (b.addText s).Whole := by
  unfold Building.addText
  split
  · exact h
  · exact ⟨h.opened, h.ready, h.root⟩

theorem Whole.close {b b' : Building} (h : b.Whole) {name : List Char}
    (hclose : b.close name = .ok b') : b'.Whole := by
  have hopened := h.flush
  have hroot : ∀ e ∈ b.flush.root, e.Whole := by
    rw [root_flush]
    exact h.root
  unfold Building.close at hclose
  split at hclose
  · cases hclose
  · next e es pending root hflush =>
    rw [hflush] at hopened hroot
    obtain ⟨he, hes⟩ := List.forall_mem_cons.mp hopened
    split at hclose
    · exact whole_attach (b := ⟨es, pending, root⟩) hes hroot he hclose
    · cases hclose

/-- Every event leaves the tree whole. -/
theorem Whole.event {b b' : Building} (h : b.Whole) {e : Event} (he : b.event e = .ok b') :
    b'.Whole := by
  have hroot : ∀ e ∈ b.flush.root, e.Whole := by
    rw [root_flush]
    exact h.root
  cases e with
  | opening content =>
    obtain ⟨tag, htag, he⟩ := eq_ok_of_bind he
    cases he
    have hopened : (⟨tag, []⟩ : Element).Whole := ⟨distinct_of_read htag, trivial⟩
    refine ⟨List.forall_mem_cons.mpr ⟨hopened, h.flush⟩, ?_, hroot⟩
    intro e he
    rw [List.head?_cons, Option.mem_some_iff] at he
    rw [← he]
    rfl
  | selfClosed content =>
    obtain ⟨tag, htag, he⟩ := eq_ok_of_bind he
    have hwhole : (⟨tag, []⟩ : Element).Whole := ⟨distinct_of_read htag, trivial⟩
    exact whole_attach h.flush hroot hwhole he
  | closing name => exact h.close he
  | text s =>
    cases he
    exact h.addText s
  | reference body =>
    rw [Building.event, addReference] at he
    split at he
    · cases he
      exact h
    · split at he
      · cases he
        exact h.addText _
      · cases he
  | fault f => cases he

theorem Whole.events {es : List Event} : ∀ {b b' : Building}, b.Whole → b.events es = .ok b' →
    b'.Whole := by
  induction es with
  | nil =>
    intro b b' h he
    cases he
    exact h
  | cons e es ih =>
    intro b b' h he
    obtain ⟨b₁, hfirst, hrest⟩ := eq_ok_of_bind he
    exact ih (h.event hfirst) hrest

theorem whole_start : Building.start.Whole where
  opened e he := absurd he List.not_mem_nil
  ready e he := by cases he
  root e he := by cases he

end Building

/-- **Every tree that is read is whole.** -/
theorem whole_of_read {script : List Char} {e : Element} (h : Element.read script = .ok e) :
    e.Whole := by
  obtain ⟨b, hb, h⟩ := eq_ok_of_bind h
  have hwhole := Building.whole_start.events hb
  unfold Building.finish at h
  split at h
  · cases h
  · split at h
    · next e hroot =>
      cases h
      exact hwhole.root e hroot
    · cases h

end LecturePlan.Markup

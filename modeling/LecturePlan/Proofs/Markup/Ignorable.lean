import LecturePlan.Proofs.Markup.ReadBack
import Mathlib.Data.List.Infix
/-!
# Markup that is ignored

Comments, CDATA sections and processing instructions leave nothing in a tree (`Ignorable`).  They may stand
wherever no tag and no reference is cut: in front of the root and behind it, next to tags, and between any
two characters of a text.  A tree is written as a list of pieces that are not to be cut (`Node.pieces`):
its tags, and the characters of its text, each as it is escaped.  A text that is `Strewn` has these pieces
in order, with ignorable markup in between.

Such a text is read as the pieces alone (`read_of_strewn`).  Ignorable markup has no event
(`scan_ignorable`), but it ends a run of text: the pieces of a leaf come as several events.  What makes no
difference is where a run is cut, since text is pending until a tag is met and is looked at then as a
whole.  So the induction goes over the pieces, with any tree in the making in front of them
(`events_of_strewn`).
-/

namespace LecturePlan.Markup

open LecturePlan.Text

/-! ## 1. Ignorable markup -/

/-- A mark behind a body ends it: it does not occur earlier, not even with its first characters in the
body. -/
def EndsFirst (mark body : List Char) : Prop := ¬ mark <:+: body ++ mark.dropLast

instance (mark body : List Char) : Decidable (EndsFirst mark body) :=
  inferInstanceAs (Decidable (¬ mark <:+: body ++ mark.dropLast))

/-- Complete markup that leaves nothing in a tree. -/
inductive Ignorable : List Char → Prop
  | comment {body : List Char} : EndsFirst ['-', '-', '>'] body →
      Ignorable (['<', '!', '-', '-'] ++ body ++ ['-', '-', '>'])
  | cdata {body : List Char} : EndsFirst [']', ']', '>'] body →
      Ignorable (['<', '!', '[', 'C', 'D', 'A', 'T', 'A', '['] ++ body ++ [']', ']', '>'])
  /-- A target that begins with a letter is one that does not begin with a bracket. -/
  | instruction {body : List Char} : EndsFirst ['?', '>'] body → body.head? ≠ some '>' →
      Ignorable (['<', '?'] ++ body ++ ['?', '>'])

theorem afterFirst?_of_endsFirst {mark body : List Char} (h : EndsFirst mark body)
    (rest : List Char) : afterFirst? mark (body ++ (mark ++ rest)) = some rest := by
  have hmark : mark ≠ [] := by
    rintro rfl
    exact h (List.nil_infix)
  induction body with
  | nil =>
    obtain ⟨c, m, rfl⟩ := List.exists_cons_of_ne_nil hmark
    simp [afterFirst?]
  | cons c body ih =>
    have hrest : EndsFirst mark body := fun hinfix => h (List.infix_cons hinfix)
    have hprefix : ¬ mark <+: c :: (body ++ (mark ++ rest)) := by
      intro hbegins
      have hcut : c :: body ++ mark.dropLast <+: c :: body ++ (mark ++ rest) :=
        (List.prefix_append_right_inj (c :: body)).mpr
          ((List.dropLast_prefix mark).trans (List.prefix_append mark rest))
      have hlength : mark.length ≤ (c :: body ++ mark.dropLast).length := by
        simp only [List.length_append, List.length_cons, List.length_dropLast]
        omega
      exact h (List.prefix_of_prefix_length_le hbegins hcut hlength).isInfix
    rw [List.cons_append, afterFirst?, if_neg (by simpa using hprefix)]
    exact ih hrest

/-- Markup without an event is passed over. -/
theorem scan_markup {s rest : List Char} (h : readMarkup s = .ok (none, rest)) :
    Event.scan ('<' :: s) = Event.scan rest := by
  rw [Event.scan, if_pos rfl]
  split
  · next heq => cases h.symm.trans heq
  · next heq =>
    cases h.symm.trans heq
    rfl
  · next heq => cases h.symm.trans heq

/-- **Ignorable markup has no event**, whatever follows it. -/
theorem scan_ignorable {m : List Char} (h : Ignorable m) (rest : List Char) :
    Event.scan (m ++ rest) = Event.scan rest := by
  cases h with
  | @comment body h =>
    have hend := afterFirst?_of_endsFirst h rest
    simp only [List.append_assoc, List.cons_append, List.nil_append] at hend ⊢
    refine scan_markup ?_
    rw [readMarkup, afterBang, afterComment, hend]
    rfl
  | @cdata body h =>
    have hend := afterFirst?_of_endsFirst h rest
    simp only [List.append_assoc, List.cons_append, List.nil_append] at hend ⊢
    refine scan_markup ?_
    rw [readMarkup, afterBang, afterCdata, if_pos (by rfl)]
    simp only [List.drop_succ_cons, List.drop_zero, hend]
    rfl
  | @instruction body h hhead =>
    have hend := afterFirst?_of_endsFirst h rest
    simp only [List.append_assoc, List.cons_append, List.nil_append] at hend ⊢
    refine scan_markup ?_
    have hbegins : (body ++ '?' :: '>' :: rest).head? ≠ some '>' := by
      cases body with
      | nil => simp
      | cons c body => exact hhead
    rw [readMarkup, afterInstruction, if_neg hbegins, hend]
    rfl

/-! ## 2. Pieces of written trees -/

/-- What is written in one piece: a character of text, or a tag. -/
inductive Piece where
  | char (c : Char)
  | opening (t : Tag)
  | selfClosed (t : Tag)
  | closing (t : Tag)
deriving DecidableEq, Repr

/-- The characters of a piece. -/
def Piece.write : Piece → List Char
  | .char c => escapeTextChar c
  | .opening t => t.opening
  | .selfClosed t => t.selfClosed
  | .closing t => t.closing

/-- The tag of a piece, if it is one, has names that can be told from markup. -/
def Piece.Legible : Piece → Prop
  | .char _ => True
  | .opening t | .selfClosed t | .closing t => t.Legible

mutual

/-- The pieces of a node, in written order. -/
def Node.pieces : Node → List Piece
  | .text s => s.toList.map .char
  | .element tag [] => [.selfClosed tag]
  | .element tag (child :: children) =>
    .opening tag :: (child.pieces ++ piecesAll children) ++ [.closing tag]

/-- The pieces of siblings. -/
def piecesAll : List Node → List Piece
  | [] => []
  | n :: ns => n.pieces ++ piecesAll ns

end

/-- The pieces of an element. -/
def Element.pieces (e : Element) : List Piece := e.toNode.pieces

mutual

/-- A node is written piece by piece. -/
theorem flatMap_pieces : ∀ n : Node, n.pieces.flatMap Piece.write = n.write
  | .text s => by
    rw [Node.pieces, List.flatMap_map]
    rfl
  | .element tag [] => by simp [Node.pieces, Node.write, Piece.write]
  | .element tag (child :: children) => by
    simp [Node.pieces, Node.write, Piece.write, flatMap_pieces child, flatMap_piecesAll children]

theorem flatMap_piecesAll : ∀ ns : List Node, (piecesAll ns).flatMap Piece.write = writeAll ns
  | [] => rfl
  | n :: ns => by
    rw [piecesAll, List.flatMap_append, flatMap_pieces n, flatMap_piecesAll ns, writeAll]

end

mutual

/-- The pieces of a tree that can be read back are legible. -/
theorem legible_of_mem_pieces : ∀ {n : Node}, n.Readable → ∀ p ∈ n.pieces, p.Legible
  | .text s, _ => by
    intro p hp
    obtain ⟨c, -, rfl⟩ := List.mem_map.mp hp
    trivial
  | .element tag [], ⟨htag, _⟩ => by
    intro p hp
    rw [List.mem_singleton.mp hp]
    exact htag.legible
  | .element tag (child :: children), ⟨htag, hchild, hchildren⟩ => by
    intro p hp
    simp only [Node.pieces, List.cons_append, List.mem_cons, List.mem_append, List.not_mem_nil,
      or_false] at hp
    rcases hp with rfl | (hp | hp) | rfl
    · exact htag.legible
    · exact legible_of_mem_pieces hchild p hp
    · exact legible_of_mem_piecesAll hchildren p hp
    · exact htag.legible

theorem legible_of_mem_piecesAll : ∀ {ns : List Node}, ReadableAll ns →
    ∀ p ∈ piecesAll ns, p.Legible
  | [], _ => by
    intro p hp
    cases hp
  | n :: ns, ⟨hn, hns⟩ => by
    intro p hp
    rcases List.mem_append.mp hp with hp | hp
    · exact legible_of_mem_pieces hn p hp
    · exact legible_of_mem_piecesAll hns p hp

end

/-! ## 3. Markup between the pieces -/

/-- A text has these pieces, in order, and ignorable markup in between. -/
inductive Strewn : List Piece → List Char → Prop
  | nil : Strewn [] []
  | piece (p : Piece) {ps : List Piece} {s : List Char} :
      Strewn ps s → Strewn (p :: ps) (p.write ++ s)
  | markup {m : List Char} {ps : List Piece} {s : List Char} :
      Ignorable m → Strewn ps s → Strewn ps (m ++ s)

/-- Texts that are followed alike are followed alike behind a piece. -/
theorem Building.events_piece {p : Piece} (h : p.Legible) {s s' : List Char}
    (hs : ∀ b : Building, b.events (Event.scan s) = b.events (Event.scan s')) (b : Building) :
    b.events (Event.scan (p.write ++ s)) = b.events (Event.scan (p.write ++ s')) := by
  cases p with
  | char c =>
    have htext (rest : List Char) : b.events (Event.scan (escapeTextChar c ++ rest)) =
        (b.addText [c]).events (Event.scan rest) := by
      have hall := events_escapeText b [c] rest
      rwa [escapeText, List.flatMap_singleton] at hall
    rw [Piece.write, htext, htext, hs]
  | opening t =>
    rw [Piece.write, scan_opening h, scan_opening h, events_cons, events_cons]
    exact bind_congr hs
  | selfClosed t =>
    rw [Piece.write, scan_selfClosed h, scan_selfClosed h, events_cons, events_cons]
    exact bind_congr hs
  | closing t =>
    rw [Piece.write, scan_closing h, scan_closing h, events_cons, events_cons]
    exact bind_congr hs

/-- **What is strewn between the pieces is not seen**, whatever tree is in the making. -/
theorem Building.events_of_strewn {ps : List Piece} {s : List Char} (h : Strewn ps s)
    (hps : ∀ p ∈ ps, p.Legible) (b : Building) :
    b.events (Event.scan s) = b.events (Event.scan (ps.flatMap Piece.write)) := by
  induction h generalizing b with
  | nil => rfl
  | piece p h ih =>
    obtain ⟨hp, hps⟩ := List.forall_mem_cons.mp hps
    exact events_piece hp (ih hps) b
  | markup hm h ih =>
    rw [scan_ignorable hm]
    exact ih hps b

/-- A written tree is strewn with nothing. -/
theorem strewn_write (e : Element) : Strewn e.pieces e.write := by
  have hself (ps : List Piece) : Strewn ps (ps.flatMap Piece.write) := by
    induction ps with
    | nil => exact .nil
    | cons p ps ih => exact .piece p ih
  have hall := hself e.pieces
  rwa [Element.pieces, flatMap_pieces] at hall

/-! ## 4. Reading what is strewn -/

theorem Ignorable.head? {m : List Char} (h : Ignorable m) : m.head? = some '<' := by
  cases h <;> rfl

/-- What is strewn begins with a bracket if its first piece does. -/
theorem Strewn.head? {p : Piece} {ps : List Piece} {s : List Char} (h : Strewn (p :: ps) s)
    (hp : p.write.head? = some '<') : s.head? = some '<' := by
  cases h with
  | piece _ h => rw [List.head?_append, hp, Option.some_or]
  | markup hm h => rw [List.head?_append, hm.head?, Option.some_or]

/-- The first piece of an element is its tag. -/
theorem pieces_eq_cons (e : Element) :
    ∃ p ps, e.pieces = p :: ps ∧ p.write.head? = some '<' := by
  unfold Element.pieces Element.toNode
  cases e.children with
  | nil => exact ⟨_, _, rfl, rfl⟩
  | cons child children => exact ⟨_, _, rfl, rfl⟩

theorem head?_of_strewn {e : Element} {s : List Char} (h : Strewn e.pieces s) :
    s.head? = some '<' := by
  obtain ⟨p, ps, hpieces, hp⟩ := pieces_eq_cons e
  rw [hpieces] at h
  exact h.head? hp

/-- **A text that is strewn is read as what is written.** -/
theorem read_of_strewn {e : Element} (h : e.Readable) {s : List Char} (hs : Strewn e.pieces s) :
    Element.read s = Element.read e.write := by
  have hevents := Building.events_of_strewn hs (legible_of_mem_pieces h) Building.start
  rw [Element.pieces, flatMap_pieces] at hevents
  rw [Element.read, Element.read, dropMark_of_head? (head?_of_strewn hs),
    dropMark_of_head? (head?_write e), hevents]
  rfl

/-- **Ignorable markup does not change the tree.**  A written tree is a text to strew it in, and wherever it
is strewn, a normal tree is read as it was.  A tree that is not normal is read with its text in one piece:
what stands in front of ignorable markup and behind it is one leaf, and is dropped if it is blank as a
whole. -/
theorem ofString_of_strewn :
    (∀ e : Element, Strewn e.pieces e.toString.toList) ∧
    (∀ e : Element, e.Normal → ∀ s : String, Strewn e.pieces s.toList →
      Element.ofString s = .ok e) ∧
    ∀ e : Element, e.Readable → ∀ s : String, Strewn e.pieces s.toList →
      Element.ofString s = .ok e.settled := by
  have hread (e : Element) (h : e.Readable) (s : String) (hs : Strewn e.pieces s.toList) :
      Element.ofString s = Element.ofString e.toString := by
    rw [Element.ofString, read_of_strewn h hs, Element.ofString, Element.toString,
      String.toList_ofList]
  refine ⟨fun e => ?_, fun e h s hs => ?_, fun e h s hs => ?_⟩
  · rw [Element.toString, String.toList_ofList]
    exact strewn_write e
  · rw [hread e (readable_of_normal h.legible h.whole) s hs, ofString_toString_of_normal h]
  · rw [hread e h s hs, ofString_toString_of_readable h]

/-- Comments, a CDATA section and instructions around the root, next to a tag and inside a text. -/
theorem ofString_of_strewn_everywhere :
    let e : Element := ⟨⟨"p", [("id", "a")]⟩, [.text "x & y", .element ⟨"br", []⟩ [], .text " z"]⟩
    let s := "<?note a?><p id=\"a\">x<!-- - --> <![CDATA[<b>]]>&amp; y<br/><!----> <?w?>z</p><!-- > -->"
    e.Normal ∧ Strewn e.pieces s.toList ∧ Element.ofString s = .ok e := by
  intro e s
  have hlegible : e.Legible := ⟨by decide, trivial, ⟨by decide, trivial⟩, trivial, trivial⟩
  have hwhole : e.Whole := ⟨by decide, rfl, rfl, ⟨by decide, trivial⟩, rfl, rfl, rfl, trivial⟩
  have hstrewn : Strewn e.pieces s.toList := by
    have hall := Strewn.markup
      (@Ignorable.instruction ['n', 'o', 't', 'e', ' ', 'a'] (by decide) (by decide)) <|
      .piece (.opening ⟨"p", [("id", "a")]⟩) <| .piece (.char 'x') <|
      .markup (@Ignorable.comment [' ', '-', ' '] (by decide)) <| .piece (.char ' ') <|
      .markup (@Ignorable.cdata ['<', 'b', '>'] (by decide)) <| .piece (.char '&') <|
      .piece (.char ' ') <| .piece (.char 'y') <| .piece (.selfClosed ⟨"br", []⟩) <|
      .markup (@Ignorable.comment [] (by decide)) <| .piece (.char ' ') <|
      .markup (@Ignorable.instruction ['w'] (by decide) (by decide)) <| .piece (.char 'z') <|
      .piece (.closing ⟨"p", [("id", "a")]⟩) <|
      .markup (@Ignorable.comment [' ', '>', ' '] (by decide)) .nil
    refine Eq.mp (congrArg₂ Strewn ?_ ?_) hall
    · decide +kernel
    · decide +kernel
  exact ⟨⟨hlegible, hwhole⟩, hstrewn, ofString_of_strewn.2.1 e ⟨hlegible, hwhole⟩ s hstrewn⟩

end LecturePlan.Markup

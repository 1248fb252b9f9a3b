import LecturePlan.Markup.Event
import LecturePlan.Markup.Tree
/-!
# Reading a script

`Element.read` turns a script into its root element.  It follows the events of the script with a
stack of open elements and the text that is pending for the innermost of them.  Pending text is put
into the tree when a tag is met, and is dropped if it is all white space, so text that is only
interrupted by a comment or a reference stays one leaf.  What stands outside the root is ignored.
-/

namespace LecturePlan.Markup

open LecturePlan.Text

/-! ## 1. Tags -/

/-- The byte offset at which a suffix of a tag's content starts. -/
def offsetIn (content suffix : List Char) : Nat := byteLength content - byteLength suffix

/-- Cuts off an attribute's key.  The first character belongs to it whatever it is. -/
def cutKey (s : List Char) : List Char × List Char :=
  match s with
  | [] => ([], [])
  | c :: s =>
    let cut := splitBefore (fun c => c == '=' || isTagSpace c) s
    (c :: cut.1, cut.2)

/-- Reads what is between a key and its value, and the value: raw text between two equal quotes. -/
def cutValue (content s : List Char) : Except XmlFault (List Char × List Char) :=
  match s.dropWhile isTagSpace with
  | [] => .error (.valueMissing (byteLength content))
  | q :: v =>
    if q = '"' ∨ q = '\'' then
      let cut := splitBefore (· == q) v
      match cut.2 with
      | _ :: rest => .ok (cut.1, rest)
      | [] => .error (.valueUnclosed (byteLength content) q)
    else .error (.valueUnquoted (offsetIn content (q :: v)))

theorem length_cutKey_snd_lt {s : List Char} (h : s ≠ []) : (cutKey s).2.length < s.length := by
  cases s with
  | nil => exact absurd rfl h
  | cons c s => exact Nat.lt_succ_of_le (length_splitBefore_snd_le _ s)

theorem length_dropWhile_le (p : Char → Bool) (s : List Char) :
    (s.dropWhile p).length ≤ s.length := List.Sublist.length_le (List.dropWhile_sublist p)

theorem length_cutValue_le {content s raw rest : List Char}
    (h : cutValue content s = .ok (raw, rest)) : rest.length ≤ s.length := by
  have hd := length_dropWhile_le isTagSpace s
  unfold cutValue at h
  split at h
  · simp at h
  · next q v hq =>
    rw [hq, List.length_cons] at hd
    split at h
    · simp only at h
      split at h
      · next c r hr =>
        simp only [Except.ok.injEq, Prod.mk.injEq] at h
        have := length_splitBefore_snd_le (· == q) v
        rw [hr, List.length_cons, h.2] at this
        omega
      · simp at h
    · simp at h

/-- Reads the attributes of a tag from a suffix of its content.  `keys` holds those read before,
each with the place where it starts.  Each value is unescaped before the next key is looked at. -/
def readAttributes (name content : List Char) (keys : List (List Char × Nat)) (s : List Char) :
    Except ReadError (List Attribute) :=
  match _hs : s.dropWhile isTagSpace with
  | [] => .ok []
  | c :: t =>
    let start := offsetIn content (c :: t)
    let cut := cutKey (c :: t)
    match _he : cut.2.dropWhile isTagSpace with
    | '=' :: v =>
      match keys.lookup cut.1 with
      | some previous => .error (.xml (.repeatedKey start previous))
      | none =>
        match _hv : cutValue content v with
        | .error f => .error (.xml f)
        | .ok (raw, rest) =>
          match unescape raw with
          | .error f =>
            .error (.script (.invalidValue (String.ofList cut.1) (String.ofList name) f))
          | .ok value => do
            let more ← readAttributes name content (keys ++ [(cut.1, start)]) rest
            pure ((String.ofList cut.1, String.ofList value) :: more)
    | rest => .error (.xml (.keyAlone (offsetIn content rest)))
termination_by s.length
decreasing_by
  have h1 := length_dropWhile_le isTagSpace s
  have h2 := length_cutKey_snd_lt (List.cons_ne_nil c t)
  have h3 := length_dropWhile_le isTagSpace (cutKey (c :: t)).2
  have h4 := length_cutValue_le _hv
  rw [_hs] at h1
  have h5 := congrArg List.length _he
  simp only [cut, List.length_cons] at h5 h1 h2
  omega

/-- Reads the content of a start tag: a name up to the first white space, then attributes. -/
def Tag.read (content : List Char) : Except ReadError Tag := do
  let cut := splitBefore isTagSpace content
  let attributes ← readAttributes cut.1 content [] cut.2
  pure ⟨String.ofList cut.1, attributes⟩

/-! ## 2. The tree -/

/-- A tree in the making: the open elements, the innermost first, the text pending for the
innermost, and the root, once it is complete. -/
structure Building where
  opened : List Element
  pending : List Char
  root : Option Element

namespace Building

/-- Nothing has been read. -/
def start : Building := ⟨[], [], none⟩

/-- Puts a node behind the children of the innermost open element. -/
def append (n : Node) : List Element → List Element
  | [] => []
  | e :: es => { e with children := e.children ++ [n] } :: es

/-- Moves pending text into the tree, unless it is all white space. -/
def flush (b : Building) : Building :=
  if allBlank b.pending then { b with pending := [] }
  else { b with opened := append (.text (String.ofList b.pending)) b.opened, pending := [] }

/-- Puts a complete element below the innermost open one, or makes it the root. -/
def attach (b : Building) (e : Element) : Except ReadError Building :=
  match b.opened with
  | _ :: _ => .ok { b with opened := append e.toNode b.opened }
  | [] =>
    match b.root with
    | none => .ok { b with root := some e }
    | some _ => .error (.script (.secondRoot e.tag.name))

/-- Adds characters to the pending text; outside the root they are ignored. -/
def addText (b : Building) (s : List Char) : Building :=
  if b.opened.isEmpty then b else { b with pending := b.pending ++ s }

/-- Adds the character of a reference; outside the root it is not looked at. -/
def addReference (b : Building) (body : List Char) : Except ReadError Building :=
  if b.opened.isEmpty then .ok b
  else match resolve? body with
    | some c => .ok (b.addText [c])
    | none => .error (.script (.unknownReference (String.ofList body)))

/-- Closes the innermost open element, whose name has to be the one of the end tag. -/
def close (b : Building) (name : List Char) : Except ReadError Building :=
  match b.flush with
  | ⟨[], _, _⟩ => .error (.xml (.unmatchedEnd (String.ofList name)))
  | ⟨e :: es, pending, root⟩ =>
    if e.tag.name = String.ofList name then attach ⟨es, pending, root⟩ e
    else .error (.xml (.wrongEnd e.tag.name (String.ofList name)))

/-- Follows one event. -/
def event (b : Building) : Event → Except ReadError Building
  | .opening content => do
    let tag ← Tag.read content
    let b := b.flush
    pure { b with opened := ⟨tag, []⟩ :: b.opened }
  | .selfClosed content => do
    let tag ← Tag.read content
    b.flush.attach ⟨tag, []⟩
  | .closing name => b.close name
  | .text s => .ok (b.addText s)
  | .reference body => b.addReference body
  | .fault f => .error (.xml f)

/-- Follows events in order; the first error ends the reading. -/
def events (b : Building) : List Event → Except ReadError Building
  | [] => .ok b
  | e :: es => b.event e >>= fun b => b.events es

/-- The root of a tree that is complete. -/
def finish (b : Building) : Except ReadError Element :=
  match b.opened with
  | e :: _ => .error (.script (.unclosedElement e.tag.name))
  | [] =>
    match b.root with
    | some e => .ok e
    | none => .error (.script .noRoot)

end Building

/-- The mark that may stand in front of a text to tell the order of its bytes. -/
def byteOrderMark : Char := '\ufeff'

/-- Drops one byte order mark in front of a script. -/
def dropMark : List Char → List Char
  | [] => []
  | c :: s => if c = byteOrderMark then s else c :: s

/-- Reads a script as its root element. -/
def Element.read (script : List Char) : Except ReadError Element := do
  let b ← Building.start.events (Event.scan (dropMark script))
  b.finish

/-- Reads the text of a script as its root element. -/
def Element.ofString (script : String) : Except ReadError Element := Element.read script.toList

end LecturePlan.Markup

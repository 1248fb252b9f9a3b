import LecturePlan.Markup.ReadError
/-!
# The events of a script

`Event.scan` cuts the characters of a script into tags, runs of text and references, in order.
Comments, CDATA sections, processing instructions, declarations and document types leave no event.
Names are not looked at here: a tag is what stands between its angle brackets, quotes respected.
The first construct that cannot be read ends the list with a `fault`, so whoever follows the events
meets it after everything before it.
-/

namespace LecturePlan.Markup

open LecturePlan.Text

/-- One piece of a script. -/
inductive Event where
  /-- A start tag: the characters between its brackets. -/
  | opening (content : List Char)
  /-- A tag that ends itself: the characters before its final slash. -/
  | selfClosed (content : List Char)
  /-- An end tag: its name. -/
  | closing (name : List Char)
  /-- Characters outside of tags, as they stand. -/
  | text (s : List Char)
  /-- A reference outside of tags: the characters between `&` and `;`. -/
  | reference (body : List Char)
  /-- Nothing can be read from here on. -/
  | fault (f : XmlFault)
deriving DecidableEq, Repr

/-- The white space that separates the parts of a tag. -/
def isTagSpace (c : Char) : Bool := c == ' ' || c == '\t' || c == '\r' || c == '\n'

/-! ## 1. Where constructs end -/

/-- Cuts a tag at the first `>` outside of quotes. -/
def cutTag (quote : Option Char) : List Char → Except Unclosed (List Char × List Char)
  | [] => .error (match quote with
    | none => .tag
    | some q => .value q)
  | c :: s =>
    match quote with
    | some q => consFst c (cutTag (if c = q then none else some q) s)
    | none =>
      if c = '>' then .ok ([], s)
      else consFst c (cutTag (if c = '"' ∨ c = '\'' then some c else none) s)
where
  consFst (c : Char) : Except Unclosed (List Char × List Char) →
      Except Unclosed (List Char × List Char)
    | .ok (s, rest) => .ok (c :: s, rest)
    | .error e => .error e

/-- Where in a document type the reader stands. -/
inductive DoctypePlace where
  | outside (quote : Option Char)
  | subset
  /-- In a declaration of the subset that may quote texts. -/
  | declaration (quote : Option Char)
  /-- In any other markup of the subset. -/
  | markup
  | comment
  | instruction
  | afterSubset
deriving DecidableEq, Repr

/-- The quote that is open after a character. -/
def quoteAfter (quote : Option Char) (c : Char) : Option Char :=
  match quote with
  | some q => if c = q then none else some q
  | none => if c = '"' ∨ c = '\'' then some c else none

/-- Where the markup of a subset leads to whose `<` was read.  Only three kinds of declarations are
known to quote texts. -/
def declarationPlace (s : List Char) : DoctypePlace :=
  if ["!ENTITY", "!ATTLIST", "!NOTATION"].any fun word => word.toList.isPrefixOf s then
    .declaration none
  else .markup

/-- What follows a document type.  It ends at the first `>` outside of quotes and outside of its
bracketed subset; in the subset, comments, instructions and the quoted texts of declarations hide
brackets. -/
def afterDoctype? : DoctypePlace → List Char → Option (List Char)
  | _, [] => none
  | .outside none, '>' :: s => some s
  | .outside none, '[' :: s => afterDoctype? .subset s
  | .outside quote, c :: s => afterDoctype? (.outside (quoteAfter quote c)) s
  | .subset, ']' :: s => afterDoctype? .afterSubset s
  | .subset, '<' :: '!' :: '-' :: '-' :: s => afterDoctype? .comment s
  | .subset, '<' :: '?' :: s => afterDoctype? .instruction s
  | .subset, '<' :: s => afterDoctype? (declarationPlace s) s
  | .subset, _ :: s => afterDoctype? .subset s
  | .declaration none, '>' :: s => afterDoctype? .subset s
  | .declaration quote, c :: s => afterDoctype? (.declaration (quoteAfter quote c)) s
  | .markup, '>' :: s => afterDoctype? .subset s
  | .markup, _ :: s => afterDoctype? .markup s
  | .comment, '-' :: '-' :: '>' :: s => afterDoctype? .subset s
  | .comment, _ :: s => afterDoctype? .comment s
  | .instruction, '?' :: '>' :: s => afterDoctype? .subset s
  | .instruction, _ :: s => afterDoctype? .instruction s
  | .afterSubset, '>' :: s => some s
  | .afterSubset, _ :: s => afterDoctype? .afterSubset s

/-! ## 2. Constructs that leave no event -/

/-- Whether characters after `<?` begin an XML declaration and not another instruction. -/
def beginsDeclaration (s : List Char) : Bool :=
  ['x', 'm', 'l'].isPrefixOf s && match s.drop 3 with
    | [] => true
    | c :: _ => isTagSpace c || c == '?'

/-- What follows the instruction whose `<?` was read. -/
def afterInstruction (s : List Char) : Except XmlFault (List Char) :=
  if s.head? = some '>' then .error (.unclosed .instruction)
  else match afterFirst? ['?', '>'] s with
    | some rest => .ok rest
    | none => .error (.unclosed (if beginsDeclaration s then .declaration else .instruction))

/-- What follows the comment whose `<!-` was read. -/
def afterComment (s : List Char) : Except XmlFault (List Char) :=
  match s with
  | '-' :: s =>
    match afterFirst? ['-', '-', '>'] s with
    | some rest => .ok rest
    | none => .error (.unclosed .comment)
  | _ => .error (.unclosed .comment)

/-- What follows the CDATA section whose `<![` was read. -/
def afterCdata (s : List Char) : Except XmlFault (List Char) :=
  if ['C', 'D', 'A', 'T', 'A', '['].isPrefixOf s then
    match afterFirst? [']', ']', '>'] (s.drop 6) with
    | some rest => .ok rest
    | none => .error (.unclosed .cdata)
  else .error (.unclosed .cdata)

/-- What follows the document type whose `<!` was read. -/
def afterDoctype (s : List Char) : Except XmlFault (List Char) :=
  match afterDoctype? (.outside none) s with
  | none => .error (.unclosed .doctype)
  | some rest =>
    if sameIgnoringCase (s.take 7) ['D', 'O', 'C', 'T', 'Y', 'P', 'E'] then
      if ((s.drop 7).dropWhile isTagSpace).head? = some '>' then .error .namelessDoctype
      else .ok rest
    else .error (.unclosed .doctype)

/-- What follows the construct whose `<!` was read. -/
def afterBang (s : List Char) : Except XmlFault (List Char) :=
  match s with
  | '-' :: s => afterComment s
  | '[' :: s => afterCdata s
  | 'D' :: _ => afterDoctype s
  | 'd' :: _ => afterDoctype s
  | _ => .error .unknownMarkup

/-! ## 3. One event -/

/-- The name of an end tag without the white space behind it; white space alone is kept. -/
def trimName (name : List Char) : List Char :=
  if name.all isTagSpace then name else (name.reverse.dropWhile isTagSpace).reverse

/-- The event of a tag, given what stands between its brackets. -/
def Event.ofTag (content : List Char) : Event :=
  match content with
  | '/' :: name => .closing (trimName name)
  | _ =>
    match content.getLast? with
    | some '/' => .selfClosed content.dropLast
    | _ => .opening content

/-- What is read after `<`: an event, if the construct leaves one, and the rest of the script. -/
def readMarkup (s : List Char) : Except XmlFault (Option Event × List Char) :=
  match s with
  | '!' :: s => (afterBang s).map (none, ·)
  | '?' :: s => (afterInstruction s).map (none, ·)
  | _ =>
    match cutTag none s with
    | .ok (content, rest) => .ok (some (Event.ofTag content), rest)
    | .error what => .error (.unclosed what)

/-! ## 4. Every step reads on -/

theorem length_cutTag_lt {quote : Option Char} {s content rest : List Char}
    (h : cutTag quote s = .ok (content, rest)) : rest.length < s.length := by
  induction s generalizing quote content with
  | nil => simp [cutTag] at h
  | cons c s ih =>
    have step : ∀ q, cutTag.consFst c (cutTag q s) = .ok (content, rest) →
        rest.length < (c :: s).length := by
      intro q hq
      cases hc : cutTag q s with
      | error e => simp [hc, cutTag.consFst] at hq
      | ok p =>
        obtain ⟨u, r⟩ := p
        simp only [hc, cutTag.consFst, Except.ok.injEq, Prod.mk.injEq] at hq
        obtain ⟨_, rfl⟩ := hq
        exact Nat.lt_succ_of_lt (ih hc)
    cases quote with
    | some q =>
      simp only [cutTag] at h
      exact step _ h
    | none =>
      simp only [cutTag] at h
      split at h
      · simp only [Except.ok.injEq, Prod.mk.injEq] at h
        simp [h.2]
      · exact step _ h

theorem length_afterDoctype?_lt {p : DoctypePlace} {s rest : List Char}
    (h : afterDoctype? p s = some rest) : rest.length < s.length := by
  fun_induction afterDoctype? p s <;> simp_all <;> omega

theorem length_afterFirst?_lt {mark s rest : List Char} (hm : mark ≠ [])
    (h : afterFirst? mark s = some rest) : rest.length < s.length := by
  induction s with
  | nil => simp [afterFirst?, hm] at h
  | cons c s ih =>
    simp only [afterFirst?] at h
    split at h
    · cases h
      have : 0 < mark.length := List.length_pos_iff.mpr hm
      simp only [List.length_drop, List.length_cons]
      omega
    · exact Nat.lt_succ_of_lt (ih h)

theorem length_afterComment_lt {s rest : List Char} (h : afterComment s = .ok rest) :
    rest.length < s.length := by
  unfold afterComment at h
  split at h
  · split at h
    · next hf =>
      cases h
      exact Nat.lt_succ_of_lt (length_afterFirst?_lt (by simp) hf)
    · simp at h
  · simp at h

theorem length_afterCdata_lt {s rest : List Char} (h : afterCdata s = .ok rest) :
    rest.length < s.length := by
  unfold afterCdata at h
  split at h
  · split at h
    · next hf =>
      cases h
      have := length_afterFirst?_lt (by simp) hf
      simp only [List.length_drop] at this
      omega
    · simp at h
  · simp at h

theorem length_afterDoctype_lt {s rest : List Char} (h : afterDoctype s = .ok rest) :
    rest.length < s.length := by
  unfold afterDoctype at h
  split at h
  · simp at h
  · next hd =>
    split at h
    · split at h
      · simp at h
      · cases h
        exact length_afterDoctype?_lt hd
    · simp at h

theorem length_afterInstruction_lt {s rest : List Char} (h : afterInstruction s = .ok rest) :
    rest.length < s.length := by
  unfold afterInstruction at h
  split at h
  · simp at h
  · split at h
    · next hf =>
      cases h
      exact length_afterFirst?_lt (by simp) hf
    · simp at h

theorem length_afterBang_lt {s rest : List Char} (h : afterBang s = .ok rest) :
    rest.length < s.length := by
  unfold afterBang at h
  split at h
  · exact Nat.lt_succ_of_lt (length_afterComment_lt h)
  · exact Nat.lt_succ_of_lt (length_afterCdata_lt h)
  · exact length_afterDoctype_lt h
  · exact length_afterDoctype_lt h
  · simp at h

theorem length_readMarkup_lt {s rest : List Char} {e : Option Event}
    (h : readMarkup s = .ok (e, rest)) : rest.length < s.length := by
  unfold readMarkup at h
  split at h
  · next s' =>
    cases hb : afterBang s' with
    | error _ => simp [hb, Except.map] at h
    | ok r =>
      simp only [hb, Except.map, Except.ok.injEq, Prod.mk.injEq] at h
      exact Nat.lt_succ_of_lt (h.2 ▸ length_afterBang_lt hb)
  · next s' =>
    cases hb : afterInstruction s' with
    | error _ => simp [hb, Except.map] at h
    | ok r =>
      simp only [hb, Except.map, Except.ok.injEq, Prod.mk.injEq] at h
      exact Nat.lt_succ_of_lt (h.2 ▸ length_afterInstruction_lt hb)
  · split at h
    · next hc =>
      simp only [Except.ok.injEq, Prod.mk.injEq] at h
      exact h.2 ▸ length_cutTag_lt hc
    · simp at h

/-! ## 5. All events -/

/-- Characters that end a run of text. -/
def endsText (c : Char) : Bool := c == '<' || c == '&'

/-- Characters that end the body of a reference. -/
def endsReference (c : Char) : Bool := c == ';' || c == '&' || c == '<'

/-- The events of a script, in order. -/
def Event.scan (s : List Char) : List Event :=
  match s with
  | [] => []
  | c :: s =>
    if c = '<' then
      match _h : readMarkup s with
      | .ok (some e, rest) => e :: scan rest
      | .ok (none, rest) => scan rest
      | .error f => [.fault f]
    else if c = '&' then
      let cut := splitBefore endsReference s
      match _h : cut.2 with
      | ';' :: rest => .reference cut.1 :: scan rest
      | _ => [.fault .unclosedReference]
    else
      let cut := splitBefore endsText s
      .text (c :: cut.1) :: scan cut.2
termination_by s.length
decreasing_by
  · have := length_readMarkup_lt _h
    simp only [List.length_cons]
    omega
  · have := length_readMarkup_lt _h
    simp only [List.length_cons]
    omega
  · have hle := length_splitBefore_snd_le endsReference s
    have hlen := congrArg List.length _h
    simp only [cut, List.length_cons] at hlen ⊢
    omega
  · have hle := length_splitBefore_snd_le endsText s
    simp only [List.length_cons]
    omega

end LecturePlan.Markup

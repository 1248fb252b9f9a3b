import LecturePlan.Markup.Writer
import LecturePlan.Proofs.Markup.Settled
import Mathlib.Data.List.TakeWhile
/-!
# Reading back what was written

Writing a tree and reading the text gives the tree with its text in one piece, and so a normal tree is
read as it was.  The proof follows the reader inside out.  A value is written without its own quotes,
so a tag is cut where it ends, and its attributes come back one by one (`read_content`).  A character of
text comes back as itself, whether it is written as a reference or not, so written text is text
(`events_escapeText`).  A written node then does to the tree in the making what putting the node there
does (`events_write`), and putting children into an open element gives the element these children with
their text in one piece (`flush_putAll_within`).
-/

namespace LecturePlan.Markup

open LecturePlan.Text

/-! ## 1. Names and the characters that are not theirs -/

theorem IsName.ne {s : List Char} (h : IsName s) {c d : Char} (hc : c ∈ s)
    (hd : isNameChar d = false) : c ≠ d := by
  rintro rfl
  rw [h.chars c hc] at hd
  cases hd

theorem isTagSpace_of_isNameChar {c : Char} (h : isNameChar c = true) : isTagSpace c = false := by
  have hne : ∀ d, isNameChar d = false → (c == d) = false := by
    intro d hd
    rw [beq_eq_false_iff_ne]
    rintro rfl
    rw [h] at hd
    cases hd
  simp only [isTagSpace, hne ' ' rfl, hne '\t' rfl, hne '\r' rfl, hne '\n' rfl, Bool.or_false]

/-! ## 2. Values -/

/-- The name of a reference is a name. -/
theorem isName_of_named? {body : List Char} {c : Char} (h : named? body = some c) : IsName body := by
  have hbody : body = ['a', 'p', 'o', 's'] ∨ body = ['q', 'u', 'o', 't'] ∨ body = ['l', 't'] ∨
      body = ['g', 't'] ∨ body = ['a', 'm', 'p'] := by
    by_contra hno
    simp only [not_or] at hno
    simp [named?, hno] at h
  rcases hbody with rfl | rfl | rfl | rfl | rfl <;> decide

/-- A character of text is written as it is, unless it is markup, or as a reference by name. -/
theorem escapeTextChar_cases (c : Char) :
    (escapeTextChar c = [c] ∧ endsText c = false) ∨
      ∃ body, escapeTextChar c = '&' :: (body ++ [';']) ∧ named? body = some c := by
  unfold escapeTextChar
  split
  · next h => exact .inr ⟨['a', 'm', 'p'], rfl, h ▸ rfl⟩
  · next hamp =>
    split
    · next h => exact .inr ⟨['l', 't'], rfl, h ▸ rfl⟩
    · next hlt =>
      split
      · next h => exact .inr ⟨['g', 't'], rfl, h ▸ rfl⟩
      · exact .inl ⟨rfl, by simp [endsText, hamp, hlt]⟩

/-- So is a character of a value, where quotes are markup too. -/
theorem escapeValueChar_cases (c : Char) :
    (escapeValueChar c = [c] ∧ c ≠ '&' ∧ c ≠ '"') ∨
      ∃ body, escapeValueChar c = '&' :: (body ++ [';']) ∧ named? body = some c := by
  unfold escapeValueChar
  split
  · next h => exact .inr ⟨['q', 'u', 'o', 't'], rfl, h ▸ rfl⟩
  · next hquote =>
    split
    · next h => exact .inr ⟨['a', 'p', 'o', 's'], rfl, h ▸ rfl⟩
    · refine (escapeTextChar_cases c).imp_left fun h => ⟨h.1, ?_, hquote⟩
      rintro rfl
      cases h.2

/-- The quote around a value does not stand in it. -/
theorem ne_quote_of_mem_escapeValue {s : List Char} {d : Char} (h : d ∈ escapeValue s) :
    d ≠ '"' := by
  obtain ⟨c, -, hd⟩ := List.mem_flatMap.mp h
  rcases escapeValueChar_cases c with ⟨hc, -, hquote⟩ | ⟨body, hc, hbody⟩
  · rw [hc, List.mem_singleton] at hd
    rwa [hd]
  · rw [hc, List.mem_cons, List.mem_append, List.mem_singleton] at hd
    rcases hd with rfl | hd | rfl
    · decide
    · exact (isName_of_named? hbody).ne hd rfl
    · decide

theorem resolveInValue_of_named? (start : Nat) {body : List Char} {c : Char}
    (h : named? body = some c) : resolveInValue start body = .ok c := by
  unfold resolveInValue
  split
  · simp [named?] at h
  · simp [named?] at h
  · rw [h]

/-- A reference is resolved, and then the rest of the value is read. -/
theorem unescapeFrom_reference (size pos : Nat) {body : List Char}
    (h : ∀ d ∈ body, (d == '&' || d == ';') = false) (rest : List Char) :
    unescapeFrom size pos ('&' :: (body ++ ';' :: rest)) =
      resolveInValue (pos + 1) body >>= fun c =>
        (unescapeFrom size (pos + byteLength body + 2) rest).map (c :: ·) := by
  have hcut := splitBefore_of_forall (p := fun c => c == '&' || c == ';') h (d := ';') rfl rest
  rw [unescapeFrom, if_pos rfl]
  dsimp only
  split
  · next rest' hrest =>
    rw [hcut] at hrest ⊢
    cases hrest
    refine bind_congr fun c => ?_
    cases unescapeFrom size (pos + byteLength body + 2) rest <;> rfl
  · next hrest => exact absurd (congrArg Prod.snd hcut) (hrest rest)

/-- A reference by name is read as its character. -/
theorem unescapeFrom_named (size pos : Nat) {body : List Char} {c : Char}
    (h : named? body = some c) (rest : List Char) :
    unescapeFrom size pos ('&' :: (body ++ ';' :: rest)) =
      (unescapeFrom size (pos + byteLength body + 2) rest).map (c :: ·) := by
  have hname := isName_of_named? h
  rw [unescapeFrom_reference size pos (fun d hd => by
    simp [hname.ne hd (d := '&') rfl, hname.ne hd (d := ';') rfl]), resolveInValue_of_named? _ h]
  rfl

theorem unescapeFrom_char (size pos : Nat) {c : Char} (h : c ≠ '&') (rest : List Char) :
    unescapeFrom size pos (c :: rest) =
      (unescapeFrom size (pos + c.utf8Size) rest).map (c :: ·) := by
  rw [unescapeFrom, if_neg h]
  cases unescapeFrom size (pos + c.utf8Size) rest <;> rfl

theorem unescapeFrom_escapeValue (size pos : Nat) (s : List Char) :
    unescapeFrom size pos (escapeValue s) = .ok s := by
  induction s generalizing pos with
  | nil => rw [escapeValue, List.flatMap_nil, unescapeFrom]
  | cons c s ih =>
    have hcons : escapeValue (c :: s) = escapeValueChar c ++ escapeValue s := List.flatMap_cons
    rw [hcons]
    rcases escapeValueChar_cases c with ⟨hc, hamp, -⟩ | ⟨body, hc, hbody⟩
    · rw [hc, List.singleton_append, unescapeFrom_char _ _ hamp, ih]
      rfl
    · rw [hc, List.cons_append, List.append_assoc, List.singleton_append,
        unescapeFrom_named _ _ hbody, ih]
      rfl

/-- **A value is read as it was before it was written.** -/
theorem unescape_escapeValue (s : List Char) : unescape (escapeValue s) = .ok s :=
  unescapeFrom_escapeValue _ _ s

/-! ## 3. Tags -/

/-- What is read from a tag in which a character comes first that does not end it. -/
theorem cutTag_cons {quote : Option Char} {c : Char} (h : quote = none → c ≠ '>')
    {s content rest : List Char} (hs : cutTag (quoteAfter quote c) s = .ok (content, rest)) :
    cutTag quote (c :: s) = .ok (c :: content, rest) := by
  cases quote with
  | some q =>
    rw [quoteAfter] at hs
    simp only [cutTag, hs, cutTag.consFst]
  | none =>
    rw [quoteAfter] at hs
    simp only [cutTag, if_neg (h rfl), hs, cutTag.consFst]

/-- Characters that leave quotes as they are and do not end the tag belong to it. -/
theorem cutTag_append {quote : Option Char} {pre : List Char}
    (h : ∀ c ∈ pre, quoteAfter quote c = quote ∧ (quote = none → c ≠ '>'))
    {s content rest : List Char} (hs : cutTag quote s = .ok (content, rest)) :
    cutTag quote (pre ++ s) = .ok (pre ++ content, rest) := by
  induction pre with
  | nil => exact hs
  | cons c pre ih =>
    obtain ⟨⟨hquote, hend⟩, hpre⟩ := List.forall_mem_cons.mp h
    exact cutTag_cons hend (by rw [hquote]; exact ih hpre)

theorem cutTag_name {name : List Char} (h : IsName name) {s content rest : List Char}
    (hs : cutTag none s = .ok (content, rest)) :
    cutTag none (name ++ s) = .ok (name ++ content, rest) := by
  refine cutTag_append (fun c hc => ⟨?_, fun _ => h.ne hc rfl⟩) hs
  simp [quoteAfter, h.ne hc (d := '"') rfl, h.ne hc (d := '\'') rfl]

/-- What stands in quotes belongs to the tag. -/
theorem cutTag_quoted {raw : List Char} (h : ∀ c ∈ raw, c ≠ '"') {s content rest : List Char}
    (hs : cutTag none s = .ok (content, rest)) :
    cutTag none ('"' :: (raw ++ '"' :: s)) = .ok ('"' :: (raw ++ '"' :: content), rest) := by
  have hvalue : cutTag (some '"') (raw ++ '"' :: s) = .ok (raw ++ '"' :: content, rest) := by
    refine cutTag_append (fun c hc => ⟨?_, fun hnone => by cases hnone⟩)
      (cutTag_cons (fun hnone => by cases hnone) hs)
    rw [quoteAfter, if_neg (h c hc)]
  exact cutTag_cons (fun _ => by decide) hvalue

theorem cutTag_writeAttribute {a : Attribute} (h : IsName a.1.toList) {s content rest : List Char}
    (hs : cutTag none s = .ok (content, rest)) :
    cutTag none (writeAttribute a ++ s) = .ok (writeAttribute a ++ content, rest) := by
  have hopen : cutTag none ('=' :: '"' :: (escapeValue a.2.toList ++ ('"' :: s))) =
      .ok ('=' :: '"' :: (escapeValue a.2.toList ++ ('"' :: content)), rest) :=
    cutTag_cons (fun _ => by decide) (cutTag_quoted (fun _ => ne_quote_of_mem_escapeValue) hs)
  have hspace : quoteAfter none ' ' = none := rfl
  have hall := cutTag_cons (c := ' ') (fun _ => by decide) (hspace ▸ cutTag_name h hopen)
  simpa only [writeAttribute, List.cons_append, List.append_assoc, List.nil_append] using hall

/-- **A tag is cut where it ends**, whatever its values hold. -/
theorem cutTag_content {t : Tag} (h : t.Legible) {s content rest : List Char}
    (hs : cutTag none s = .ok (content, rest)) :
    cutTag none (t.content ++ s) = .ok (t.content ++ content, rest) := by
  have hattributes : ∀ as : List Attribute, (∀ a ∈ as, IsName a.1.toList) →
      cutTag none (as.flatMap writeAttribute ++ s) =
        .ok (as.flatMap writeAttribute ++ content, rest) := by
    intro as has
    induction as with
    | nil => exact hs
    | cons a as ih =>
      obtain ⟨ha, has⟩ := List.forall_mem_cons.mp has
      simp only [List.flatMap_cons, List.append_assoc]
      exact cutTag_writeAttribute ha (ih has)
  rw [Tag.content, List.append_assoc, List.append_assoc]
  exact cutTag_name h.name (hattributes _ h.keys)

/-- One attribute is read, and then the others, if its value can be. -/
theorem readAttributes_cons {name content s : List Char} {keys : List (List Char × Nat)}
    {c : Char} {t after v raw rest key : List Char}
    (hs : s.dropWhile isTagSpace = c :: t) (hkey : cutKey (c :: t) = (key, after))
    (hsign : after.dropWhile isTagSpace = '=' :: v) (hfree : keys.lookup key = none)
    (hv : cutValue content v = .ok (raw, rest)) :
    readAttributes name content keys s =
      (unescape raw).mapError
          (fun f => .script (.invalidValue (String.ofList key) (String.ofList name) f)) >>= fun value =>
        (readAttributes name content (keys ++ [(key, offsetIn content (c :: t))]) rest).map
          ((String.ofList key, String.ofList value) :: ·) := by
  rw [readAttributes]
  split
  · next hnil => cases hs.symm.trans hnil
  · next c' t' hct =>
    cases hs.symm.trans hct
    dsimp only
    split
    · next v' hv' =>
      rw [hkey] at hv' ⊢
      cases hsign.symm.trans hv'
      dsimp only
      rw [hfree]
      dsimp only
      split
      · next hfault => cases hv.symm.trans hfault
      · next raw' rest' hok =>
        cases hv.symm.trans hok
        cases unescape raw with
        | error f => rfl
        | ok value =>
          dsimp only
          cases readAttributes name content (keys ++ [(key, offsetIn content (c :: t))]) rest <;> rfl
    · next hno =>
      rw [hkey] at hno
      exact absurd hsign (hno v)

/-- Written attributes are read as they were, if no key is met twice. -/
theorem readAttributes_flatMap (name content : List Char) (as : List Attribute)
    (has : ∀ a ∈ as, IsName a.1.toList) (hnodup : (as.map Prod.fst).Nodup) :
    ∀ keys : List (List Char × Nat), (∀ a ∈ as, keys.lookup a.1.toList = none) →
      readAttributes name content keys (as.flatMap writeAttribute) = .ok as := by
  induction as with
  | nil =>
    intro keys _
    rw [List.flatMap_nil, readAttributes]
    rfl
  | cons a as ih =>
    intro keys hkeys
    obtain ⟨hname, has⟩ := List.forall_mem_cons.mp has
    obtain ⟨hfree, hkeys⟩ := List.forall_mem_cons.mp hkeys
    obtain ⟨hnew, hnodup⟩ := List.nodup_cons.mp hnodup
    obtain ⟨c, k, hck⟩ := List.exists_cons_of_ne_nil hname.nonempty
    have hk : ∀ d ∈ k, (d == '=' || isTagSpace d) = false := by
      intro d hd
      have hd : d ∈ a.1.toList := by rw [hck]; exact List.mem_cons_of_mem c hd
      simp [hname.ne hd (d := '=') rfl, isTagSpace_of_isNameChar (hname.chars d hd)]
    have hc : isTagSpace c = false :=
      isTagSpace_of_isNameChar (hname.chars c (by rw [hck]; exact List.mem_cons_self))
    have hwritten : (a :: as).flatMap writeAttribute = ' ' :: c :: (k ++ '=' ::
        ('"' :: (escapeValue a.2.toList ++ '"' :: as.flatMap writeAttribute))) := by
      simp [writeAttribute, hck]
    have hkey : ∀ x, cutKey (c :: (k ++ '=' :: x)) = (c :: k, '=' :: x) := by
      intro x
      rw [cutKey, splitBefore_of_forall hk rfl]
    have hvalue : ∀ x, cutValue content ('"' :: (escapeValue a.2.toList ++ '"' :: x)) =
        .ok (escapeValue a.2.toList, x) := by
      intro x
      have hquote : ∀ d ∈ escapeValue a.2.toList, (d == '"') = false := fun d hd =>
        beq_eq_false_iff_ne.mpr (ne_quote_of_mem_escapeValue hd)
      rw [cutValue, List.dropWhile_cons_of_neg (by decide)]
      dsimp only
      rw [if_pos (.inl rfl), splitBefore_of_forall hquote (beq_self_eq_true '"')]
    have hmore : ∀ b ∈ as, ∀ start,
        (keys ++ [(a.1.toList, start)]).lookup b.1.toList = none := by
      intro b hb start
      have hne : b.1.toList ≠ a.1.toList := fun heq =>
        hnew (List.mem_map.mpr ⟨b, hb, String.toList_inj.mp heq⟩)
      rw [List.lookup_append, hkeys b hb, Option.none_or, List.lookup_cons,
        beq_eq_false_iff_ne.mpr hne, List.lookup_nil]
    rw [hwritten, readAttributes_cons (c := c) (by
      rw [List.dropWhile_cons_of_pos rfl, List.dropWhile_cons_of_neg (by simp [hc])]) (hkey _)
      (List.dropWhile_cons_of_neg (by decide)) (hck ▸ hfree) (hvalue _), unescape_escapeValue,
      ih has hnodup _ fun b hb => hck ▸ hmore b hb _, ← hck]
    simp [Except.map, Except.mapError, bind, Except.bind]

/-- A tag's content starts with a character of its name. -/
theorem content_cons {t : Tag} (h : t.Legible) :
    ∃ c s, t.content = c :: s ∧ isNameChar c = true := by
  obtain ⟨c, s, hcs⟩ := List.exists_cons_of_ne_nil h.name.nonempty
  refine ⟨c, s ++ t.attributes.flatMap writeAttribute, by rw [Tag.content, hcs]; rfl, ?_⟩
  exact h.name.chars c (by rw [hcs]; exact List.mem_cons_self)

/-- A tag's content does not end with a slash. -/
theorem getLast?_content {t : Tag} (h : t.Legible) : t.content.getLast? ≠ some '/' := by
  rcases List.eq_nil_or_concat t.attributes with hnil | ⟨as, a, has⟩
  · intro hlast
    rw [Tag.content, hnil, List.flatMap_nil, List.append_nil] at hlast
    exact h.name.ne (List.mem_of_getLast? hlast) rfl rfl
  · have hend : t.content = t.name.toList ++ as.flatMap writeAttribute ++
        (' ' :: a.1.toList ++ ['=', '"'] ++ escapeValue a.2.toList) ++ ['"'] := by
      simp [Tag.content, has, writeAttribute]
    rw [hend, List.getLast?_concat]
    decide

/-- **A tag is read as it was before it was written.** -/
theorem read_content {t : Tag} (h : t.Legible) (hdistinct : t.Distinct) :
    Tag.read t.content = .ok t := by
  have hname : ∀ c ∈ t.name.toList, isTagSpace c = false := fun c hc =>
    isTagSpace_of_isNameChar (h.name.chars c hc)
  have hcut : splitBefore isTagSpace t.content =
      (t.name.toList, t.attributes.flatMap writeAttribute) := by
    rw [Tag.content]
    cases t.attributes with
    | nil => rw [List.flatMap_nil, List.append_nil, splitBefore_self hname]
    | cons a as =>
      rw [List.flatMap_cons]
      exact splitBefore_of_forall hname rfl _
  rw [Tag.read, hcut]
  dsimp only
  rw [readAttributes_flatMap _ _ _ h.keys hdistinct [] fun _ _ => rfl]
  simp [bind, Except.bind, pure, Except.pure]

/-! ## 4. The events of what was written -/

/-- A tag is one event, and the others are those of what follows it. -/
theorem scan_tag {s content rest : List Char} (hbang : s.head? ≠ some '!')
    (hmark : s.head? ≠ some '?') (h : cutTag none s = .ok (content, rest)) :
    Event.scan ('<' :: s) = Event.ofTag content :: Event.scan rest := by
  have hmarkup : readMarkup s = .ok (some (Event.ofTag content), rest) := by
    unfold readMarkup
    split
    · exact absurd rfl hbang
    · exact absurd rfl hmark
    · rw [h]
  rw [Event.scan, if_pos rfl]
  split
  · next heq =>
    cases hmarkup.symm.trans heq
    rfl
  · next heq => cases hmarkup.symm.trans heq
  · next heq => cases hmarkup.symm.trans heq

/-- The tag in which a legible content stands, with nothing or a slash behind it. -/
theorem scan_content {t : Tag} (h : t.Legible) (close content : List Char) {rest s : List Char}
    (hs : cutTag none (close ++ s) = .ok (content, rest)) :
    Event.scan ('<' :: (t.content ++ (close ++ s))) =
      Event.ofTag (t.content ++ content) :: Event.scan rest := by
  obtain ⟨c, u, hcu, hc⟩ := content_cons h
  have hne : ∀ d, isNameChar d = false → (t.content ++ (close ++ s)).head? ≠ some d := by
    rintro d hd heq
    rw [hcu, List.cons_append, List.head?_cons, Option.some_inj] at heq
    rw [← heq, hc] at hd
    cases hd
  exact scan_tag (hne '!' rfl) (hne '?' rfl) (cutTag_content h hs)

theorem ofTag_content {t : Tag} (h : t.Legible) : Event.ofTag t.content = .opening t.content := by
  obtain ⟨c, s, hcs, hc⟩ := content_cons h
  unfold Event.ofTag
  split
  · next heq =>
    rw [hcs] at heq
    cases heq
    cases hc
  · split
    · next heq => exact absurd heq (getLast?_content h)
    · rfl

theorem ofTag_content_slash {t : Tag} (h : t.Legible) :
    Event.ofTag (t.content ++ ['/']) = .selfClosed t.content := by
  obtain ⟨c, s, hcs, hc⟩ := content_cons h
  unfold Event.ofTag
  split
  · next heq =>
    rw [hcs] at heq
    cases heq
    cases hc
  · rw [List.getLast?_concat, List.dropLast_concat]
    rfl

theorem trimName_of_isName {name : List Char} (h : IsName name) : trimName name = name := by
  have hspace : ∀ c ∈ name, isTagSpace c = false := fun c hc =>
    isTagSpace_of_isNameChar (h.chars c hc)
  unfold trimName
  split
  · rfl
  · rw [List.dropWhile_eq_self_iff.mpr fun hlen => ?_, List.reverse_reverse]
    rw [hspace _ (List.mem_reverse.mp (List.getElem_mem hlen))]
    exact Bool.false_ne_true

theorem scan_opening {t : Tag} (h : t.Legible) (rest : List Char) :
    Event.scan (t.opening ++ rest) = .opening t.content :: Event.scan rest := by
  have hall := scan_content h [] [] (s := '>' :: rest) rfl
  rw [List.append_nil, ofTag_content h] at hall
  simpa [Tag.opening] using hall

theorem scan_selfClosed {t : Tag} (h : t.Legible) (rest : List Char) :
    Event.scan (t.selfClosed ++ rest) = .selfClosed t.content :: Event.scan rest := by
  have hall := scan_content h ['/'] ['/'] (s := '>' :: rest) rfl
  rw [ofTag_content_slash h] at hall
  simpa [Tag.selfClosed] using hall

theorem scan_closing {t : Tag} (h : t.Legible) (rest : List Char) :
    Event.scan (t.closing ++ rest) = .closing t.name.toList :: Event.scan rest := by
  have hcut : cutTag none ('/' :: (t.name.toList ++ '>' :: rest)) =
      .ok ('/' :: (t.name.toList ++ []), rest) :=
    cutTag_cons (fun _ => by decide) (cutTag_name h.name rfl)
  have hall := scan_tag (by simp) (by simp) hcut
  rw [List.append_nil, Event.ofTag, trimName_of_isName h.name] at hall
  simpa [Tag.closing] using hall

/-! ## 5. Text -/

namespace Building

theorem addText_nil (b : Building) : b.addText [] = b := by
  unfold addText
  split
  · rfl
  · rw [List.append_nil]

theorem addText_addText (b : Building) (s t : List Char) :
    (b.addText s).addText t = b.addText (s ++ t) := by
  cases hopened : b.opened <;> simp [addText, hopened]

theorem events_cons (b : Building) (e : Event) (es : List Event) :
    b.events (e :: es) = b.event e >>= fun b => b.events es := rfl

/-- A character of text that is no markup is put behind the pending text, whatever follows it. -/
theorem events_char (b : Building) {c : Char} (h : endsText c = false) (rest : List Char) :
    b.events (Event.scan (c :: rest)) = (b.addText [c]).events (Event.scan rest) := by
  have hscan : ∀ {c : Char} (s : List Char), endsText c = false → Event.scan (c :: s) =
      .text (c :: (splitBefore endsText s).1) :: Event.scan (splitBefore endsText s).2 := by
    intro c s hc
    have hne : c ≠ '<' ∧ c ≠ '&' := by simpa [endsText] using hc
    rw [Event.scan, if_neg hne.1, if_neg hne.2]
  have htext : ∀ (b : Building) (s : List Char) (es : List Event),
      b.events (.text s :: es) = (b.addText s).events es := fun _ _ _ => rfl
  rw [hscan rest h, htext]
  cases rest with
  | nil => rfl
  | cons d rest =>
    cases hd : endsText d with
    | true => simp [splitBefore, hd]
    | false =>
      rw [hscan rest hd, htext, addText_addText]
      simp [splitBefore, hd]

/-- A reference is one event, and the others are those of what follows it. -/
theorem scan_reference {body : List Char} (h : ∀ d ∈ body, endsReference d = false)
    (rest : List Char) :
    Event.scan ('&' :: (body ++ ';' :: rest)) = .reference body :: Event.scan rest := by
  have hcut := splitBefore_of_forall h (d := ';') rfl rest
  rw [Event.scan, if_neg (by decide), if_pos rfl]
  dsimp only
  split
  · next rest' hrest =>
    rw [hcut] at hrest ⊢
    cases hrest
    rfl
  · next hrest => exact absurd (congrArg Prod.snd hcut) (hrest rest)

/-- The character of a reference by name is put behind the pending text, too. -/
theorem events_reference (b : Building) {body : List Char} {c : Char} (h : named? body = some c)
    (rest : List Char) :
    b.events (Event.scan ('&' :: (body ++ ';' :: rest))) =
      (b.addText [c]).events (Event.scan rest) := by
  have hname := isName_of_named? h
  have hadd : b.addReference body = .ok (b.addText [c]) := by
    have hresolve : resolve? body = some c := by rw [resolve?, h]
    unfold addReference
    split
    · next hempty => rw [addText, if_pos hempty]
    · rw [hresolve]
  rw [scan_reference fun d hd => by
      simp [endsReference, hname.ne hd (d := ';') rfl, hname.ne hd (d := '&') rfl,
        hname.ne hd (d := '<') rfl], events_cons, event, hadd]
  rfl

/-- **Written text is text.**  Its characters are put behind the pending text, whatever follows. -/
theorem events_escapeText (b : Building) (s rest : List Char) :
    b.events (Event.scan (escapeText s ++ rest)) = (b.addText s).events (Event.scan rest) := by
  induction s generalizing b with
  | nil => rw [addText_nil, escapeText, List.flatMap_nil, List.nil_append]
  | cons c s ih =>
    have hcons : escapeText (c :: s) = escapeTextChar c ++ escapeText s := List.flatMap_cons
    have hchar : b.events (Event.scan (escapeTextChar c ++ (escapeText s ++ rest))) =
        (b.addText [c]).events (Event.scan (escapeText s ++ rest)) := by
      rcases escapeTextChar_cases c with ⟨hc, hplain⟩ | ⟨body, hc, hbody⟩
      · rw [hc, List.singleton_append, events_char b hplain]
      · rw [hc, List.cons_append, List.append_assoc, List.singleton_append,
          events_reference b hbody]
    rw [hcons, List.append_assoc, hchar, ih, addText_addText, List.singleton_append]

/-! ## 6. Nodes -/

/-- Puts a node into a tree in the making. -/
def put (b : Building) : Node → Except ReadError Building
  | .text s => .ok (b.addText s.toList)
  | .element tag children => b.flush.attach ⟨tag, children⟩

/-- Puts siblings into a tree in the making, in order. -/
def putAll (b : Building) : List Node → Except ReadError Building
  | [] => .ok b
  | n :: ns => b.put n >>= fun b => b.putAll ns

/-- A tree in the making with one more open element, and no text pending. -/
def within (b : Building) (tag : Tag) (children : List Node) : Building :=
  ⟨⟨tag, children⟩ :: b.opened, [], b.root⟩

@[simp] theorem pending_flush (b : Building) : b.flush.pending = [] := by
  unfold flush
  split <;> rfl

/-- Pending text is put into the innermost open element as a leaf, if it is not blank. -/
theorem flush_pending_within (b : Building) (tag : Tag) (children : List Node)
    (pending : List Char) :
    { b.within tag children with pending }.flush = b.within tag (children ++ leafOf pending) := by
  unfold flush leafOf
  dsimp only
  split
  · rw [List.append_nil]
    rfl
  · rfl

/-- **Siblings become the children of the element into which they are put**, with their text in one
piece. -/
theorem flush_putAll_within (b : Building) (tag : Tag) : ∀ (ns children : List Node)
    (pending : List Char),
    ({ b.within tag children with pending }.putAll ns).map flush =
      .ok (b.within tag (children ++ gather pending ns))
  | [], children, pending => congrArg Except.ok (flush_pending_within b tag children pending)
  | .text s :: ns, children, pending => flush_putAll_within b tag ns children (pending ++ s.toList)
  | .element t cs :: ns, children, pending => by
    have hput : { b.within tag children with pending }.putAll (.element t cs :: ns) =
        (b.within tag (children ++ leafOf pending ++ [.element t cs])).putAll ns := by
      rw [putAll, put, flush_pending_within]
      rfl
    have hrest : ((b.within tag (children ++ leafOf pending ++ [.element t cs])).putAll ns).map flush =
        .ok (b.within tag (children ++ leafOf pending ++ [.element t cs] ++ gather [] ns)) :=
      flush_putAll_within b tag ns _ []
    rw [hput, gather, hrest, List.append_assoc, List.append_assoc, List.singleton_append]

/-- An end tag puts the innermost open element where it belongs. -/
theorem close_of_flush {b around : Building} {tag : Tag} {children : List Node}
    (h : b.flush = around.flush.within tag children) :
    b.close tag.name.toList = around.put (.element tag children) := by
  have haround : (⟨around.flush.opened, [], around.flush.root⟩ : Building) = around.flush := by
    rw [← pending_flush around]
  rw [close, h, within]
  dsimp only
  rw [if_pos (String.ofList_toList).symm, haround]
  rfl

mutual

/-- **Reading what was written for a node puts the node into the tree as it is read**, whatever follows
it. -/
theorem events_write (b : Building) (rest : List Char) : ∀ {n : Node}, n.Readable →
    b.events (Event.scan (n.write ++ rest)) =
      b.put n.settled >>= fun b => b.events (Event.scan rest)
  | .text s, _ => events_escapeText b s.toList rest
  | .element tag children, ⟨htag, hchildren⟩ => by
    have hread := read_content htag.legible htag.distinct
    by_cases hnil : children = []
    · subst hnil
      rw [Node.write, scan_selfClosed htag.legible, events_cons, event, hread]
      rfl
    · have hopen : b.event (.opening tag.content) = .ok (b.flush.within tag []) := by
        rw [event, hread, within, ← pending_flush b]
        rfl
      obtain ⟨c, hc, hflush⟩ : ∃ c, (b.flush.within tag []).putAll (settledEach children) = .ok c ∧
          c.flush = b.flush.within tag (gather [] (settledEach children)) := by
        have hput : ((b.flush.within tag []).putAll (settledEach children)).map flush =
            .ok (b.flush.within tag (gather [] (settledEach children))) :=
          flush_putAll_within b.flush tag (settledEach children) [] []
        cases hall : (b.flush.within tag []).putAll (settledEach children) with
        | error e =>
          rw [hall] at hput
          cases hput
        | ok c =>
          rw [hall] at hput
          exact ⟨c, rfl, Except.ok.inj hput⟩
      calc b.events (Event.scan ((Node.element tag children).write ++ rest))
          = (b.flush.within tag []).events
              (Event.scan (writeAll children ++ (tag.closing ++ rest))) := by
            rw [write_element_of_ne_nil tag hnil, List.append_assoc, List.append_assoc,
              scan_opening htag.legible, events_cons, hopen]
            rfl
        _ = c.events (Event.scan (tag.closing ++ rest)) := by
            rw [events_writeAll _ _ hchildren, hc]
            rfl
        _ = c.close tag.name.toList >>= fun b => b.events (Event.scan rest) := by
            rw [scan_closing htag.legible, events_cons]
            rfl
        _ = b.put (Node.element tag children).settled >>= fun b => b.events (Event.scan rest) := by
            rw [close_of_flush hflush, Node.settled]

/-- So does reading what was written for siblings. -/
theorem events_writeAll (b : Building) (rest : List Char) : ∀ {ns : List Node}, ReadableAll ns →
    b.events (Event.scan (writeAll ns ++ rest)) =
      b.putAll (settledEach ns) >>= fun b => b.events (Event.scan rest)
  | [], _ => rfl
  | n :: ns, ⟨hn, hns⟩ => by
    rw [writeAll, List.append_assoc, events_write b _ hn, settledEach, putAll, bind_assoc]
    exact bind_congr fun c => events_writeAll c rest hns

end

end Building

/-! ## 7. The round trip -/

/-- No byte order mark is dropped in front of a tag. -/
theorem dropMark_of_head? {s : List Char} (h : s.head? = some '<') : dropMark s = s := by
  obtain ⟨rest, rfl⟩ := List.head?_eq_some_iff.mp h
  rfl

theorem head?_write (e : Element) : e.write.head? = some '<' := by
  unfold Element.write Element.toNode
  cases e.children <;> rfl

/-- **A tree that was written is read with its text in one piece.** -/
theorem ofString_toString_of_readable {e : Element} (h : e.Readable) :
    Element.ofString e.toString = .ok e.settled := by
  have hmark : dropMark e.write = e.write := dropMark_of_head? (head?_write e)
  have hevents : Building.start.events (Event.scan e.write) = .ok ⟨[], [], some e.settled⟩ := by
    have hall := Building.events_write Building.start [] h
    rw [List.append_nil, Event.scan] at hall
    exact hall
  rw [Element.ofString, Element.toString, String.toList_ofList, Element.read, hmark, hevents]
  rfl

theorem ofString_toString_of_normal {e : Element} (h : e.Normal) :
    Element.ofString e.toString = .ok e := by
  have hsettled : e.settled = e := by
    obtain ⟨-, hwhole⟩ := h.whole
    rw [Element.settled, settledEach_of_whole hwhole, gather_of_whole hwhole (.inl rfl)]
    rfl
  rw [ofString_toString_of_readable (readable_of_normal h.legible h.whole), hsettled]

/-- **Writing and reading are inverse on normal trees**, and a tree that is read is normal but for its
names. -/
theorem ofString_toString :
    (∀ e : Element, e.Normal → Element.ofString e.toString = .ok e) ∧
      ∀ (script : String) (e : Element), Element.ofString script = .ok e →
        e.Whole ∧ (e.Legible → Element.ofString e.toString = .ok e) := by
  refine ⟨fun e h => ofString_toString_of_normal h, fun script e h => ?_⟩
  have hwhole := whole_of_read h
  exact ⟨hwhole, fun hlegible => ofString_toString_of_normal ⟨hlegible, hwhole⟩⟩

/-- A lecture with quotes in a value, markup in a text and a slide between two leaves. -/
theorem ofString_toString_of_markup_in_text :
    let e : Element := ⟨⟨"lecture", [("title", "\"Q\" & 'A'"), ("xml:lang", "")]⟩,
      [.text "1 < 2", .element ⟨"slide", []⟩ [], .text " &amp; so on "]⟩
    Element.ofString e.toString = .ok e ∧ e.Whole := by
  intro e
  have hlegible : e.Legible := ⟨by decide, trivial, ⟨by decide, trivial⟩, trivial, trivial⟩
  have hwhole : e.Whole :=
    ⟨by decide, rfl, rfl, ⟨by decide, trivial⟩, rfl, rfl, rfl, trivial⟩
  have hread := ofString_toString.1 e ⟨hlegible, hwhole⟩
  exact ⟨hread, (ofString_toString.2 e.toString e hread).1⟩

end LecturePlan.Markup

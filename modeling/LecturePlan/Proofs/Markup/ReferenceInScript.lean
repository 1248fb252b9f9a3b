import LecturePlan.Proofs.Markup.ReferenceMeaning
/-!
# References in scripts

A script with a reference in a text and one with the same reference in a value are read alike
(`ofString_reference`), as far as the reader of text takes no liberties.  Each of the two scripts is followed
from its first character to its last, and what is left of it is one call of the reader of references, in a
text (`ofString_textScript`) or in a value (`ofString_valueScript`).
-/

namespace LecturePlan.Markup

open LecturePlan.Text

/-! ## 1. Scripts with one reference -/

/-- Characters that stand for themselves, in text as well as in quotes. -/
def isPlain (c : Char) : Bool := c != '&' && c != '<' && c != '"'

/-- Characters that may stand between `&` and `;`. -/
def isBodyChar (c : Char) : Bool := isPlain c && c != ';' && c != '>' && c != '\''

/-- A text that is not blank and stands for itself. -/
structure Verbatim (x : String) : Prop where
  plain : ∀ c ∈ x.toList, isPlain c = true
  visible : allBlank x.toList = false

/-- What may stand between `&` and `;`. -/
def IsBody (r : String) : Prop := ∀ c ∈ r.toList, isBodyChar c = true

instance (x : String) : Decidable (Verbatim x) :=
  decidable_of_iff (x.toList.all isPlain = true ∧ allBlank x.toList = false)
    ⟨fun h => ⟨List.all_eq_true.mp h.1, h.2⟩, fun h => ⟨List.all_eq_true.mpr h.plain, h.visible⟩⟩

instance (r : String) : Decidable (IsBody r) :=
  decidable_of_iff (r.toList.all isBodyChar = true) List.all_eq_true

/-- A script with a reference behind a text. -/
def textScript (x r : String) : String := "<a>" ++ x ++ "&" ++ r ++ ";</a>"

/-- A script with a reference behind a text in a value. -/
def valueScript (x r : String) : String := "<a b=\"" ++ x ++ "&" ++ r ++ ";\"/>"

/-- The tree of a script with a text. -/
def textTree (s : String) : Element := ⟨⟨"a", []⟩, [.text s]⟩

/-- The tree of a script with a value. -/
def valueTree (s : String) : Element := ⟨⟨"a", [("b", s)]⟩, []⟩

variable {x r : String}

theorem Verbatim.ne (hx : Verbatim x) {c d : Char} (hc : c ∈ x.toList) (hd : isPlain d = false) :
    c ≠ d := by
  rintro rfl
  rw [hx.plain c hc] at hd
  cases hd

theorem IsBody.ne (hr : IsBody r) {c d : Char} (hc : c ∈ r.toList) (hd : isBodyChar d = false) :
    c ≠ d := by
  rintro rfl
  rw [hr c hc] at hd
  cases hd

/-! ## 2. A reference in a text -/

/-- Plain text is put behind the pending text, whatever follows it. -/
theorem Building.events_plain (b : Building) {s : List Char} (h : ∀ c ∈ s, endsText c = false)
    (rest : List Char) :
    b.events (Event.scan (s ++ rest)) = (b.addText s).events (Event.scan rest) := by
  induction s generalizing b with
  | nil => rw [addText_nil, List.nil_append]
  | cons c s ih =>
    obtain ⟨hc, hs⟩ := List.forall_mem_cons.mp h
    rw [List.cons_append, events_char b hc, ih _ hs, addText_addText, List.singleton_append]

namespace Building

/-- A root without children whose end tag is not met yet, and the text in it. -/
def inside (t : Tag) (pending : List Char) : Building := ⟨[⟨t, []⟩], pending, none⟩

theorem events_opening {t : Tag} (h : t.Legible) (hdistinct : t.Distinct) (rest : List Char) :
    start.events (Event.scan (t.opening ++ rest)) = (inside t []).events (Event.scan rest) := by
  rw [scan_opening h, events_cons, event, read_content h hdistinct]
  rfl

theorem events_closing {t : Tag} (h : t.Legible) (pending : List Char) :
    (inside t pending).events (Event.scan t.closing) =
      .ok ⟨[], [], some ⟨t, leafOf pending⟩⟩ := by
  have hflush : (inside t pending).flush = start.flush.within t (leafOf pending) :=
    flush_pending_within start t [] pending
  have hscan := scan_closing h []
  rw [List.append_nil] at hscan
  rw [hscan, Event.scan, events_cons, event, close_of_flush hflush]
  rfl

end Building

/-- **How a script with a reference in its text is read.** -/
theorem ofString_textScript (hx : Verbatim x) (hr : IsBody r) :
    Element.ofString (textScript x r) =
      match resolve? r.toList with
      | some c => .ok (textTree (x.push c))
      | none => .error (.script (.unknownReference r)) := by
  let t : Tag := ⟨"a", []⟩
  have ht : t.Legible := ⟨by decide, List.forall_mem_nil _⟩
  have hscript : (textScript x r).toList =
      t.opening ++ (x.toList ++ '&' :: (r.toList ++ ';' :: t.closing)) := by
    simp [textScript, t, Tag.opening, Tag.closing, Tag.content]
  have htext : ∀ c ∈ x.toList, endsText c = false := fun c hc => by
    simp [endsText, hx.ne hc (d := '<') rfl, hx.ne hc (d := '&') rfl]
  have hreference : ∀ d ∈ r.toList, endsReference d = false := fun d hd => by
    simp [endsReference, hr.ne hd (d := ';') rfl, hr.ne hd (d := '&') rfl,
      hr.ne hd (d := '<') rfl]
  have hadd : (Building.inside t x.toList).event (.reference r.toList) =
      match resolve? r.toList with
        | some c => .ok (Building.inside t (x.toList ++ [c]))
        | none => .error (.script (.unknownReference (String.ofList r.toList))) := rfl
  have hevents : Building.start.events (Event.scan (textScript x r).toList) =
      (Building.inside t x.toList).event (.reference r.toList) >>= fun b =>
        b.events (Event.scan t.closing) := by
    rw [hscript, Building.events_opening ht (by decide), Building.events_plain _ htext,
      Building.scan_reference hreference, Building.events_cons]
    rfl
  rw [Element.ofString, Element.read, dropMark_of_head? (by rw [hscript]; rfl), hevents, hadd]
  cases resolve? r.toList with
  | none => rw [String.ofList_toList]; rfl
  | some c =>
    have hleaf : leafOf (x.toList ++ [c]) = [.text (x.push c)] := by
      rw [leafOf, allBlank_append, hx.visible, Bool.false_and, if_neg Bool.false_ne_true]
      simp
    calc _ = (Building.inside t (x.toList ++ [c])).events (Event.scan t.closing) >>=
          fun b => b.finish := rfl
      _ = .ok (textTree (x.push c)) := by
        rw [Building.events_closing ht, hleaf]
        rfl

/-! ## 3. A reference in a value -/

/-- Plain text in a value is read as it stands. -/
theorem unescapeFrom_plain (size pos : Nat) {s : List Char} (h : ∀ c ∈ s, c ≠ '&')
    (rest : List Char) :
    unescapeFrom size pos (s ++ rest) =
      (unescapeFrom size (pos + byteLength s) rest).map (s ++ ·) := by
  induction s generalizing pos with
  | nil =>
    rw [List.nil_append, byteLength, Nat.add_zero]
    cases unescapeFrom size pos rest <;> rfl
  | cons c s ih =>
    obtain ⟨hc, hs⟩ := List.forall_mem_cons.mp h
    rw [List.cons_append, unescapeFrom_char size pos hc, ih _ hs, byteLength, ← Nat.add_assoc]
    cases unescapeFrom size (pos + c.utf8Size + byteLength s) rest <;> rfl

theorem unescape_reference (hx : Verbatim x) (hr : IsBody r) :
    unescape (x.toList ++ '&' :: (r.toList ++ [';'])) =
      (resolveInValue (byteLength x.toList + 1) r.toList).map (x.toList ++ [·]) := by
  have hbody : ∀ d ∈ r.toList, (d == '&' || d == ';') = false := fun d hd => by
    simp [hr.ne hd (d := '&') rfl, hr.ne hd (d := ';') rfl]
  rw [unescape, unescapeFrom_plain _ _ fun c hc => hx.ne hc rfl,
    unescapeFrom_reference _ _ hbody, unescapeFrom, Nat.zero_add]
  cases resolveInValue (byteLength x.toList + 1) r.toList <;> rfl

/-- The content of a tag with one value, as it is written. -/
def valueContent (raw : List Char) : List Char := 'a' :: ' ' :: 'b' :: '=' :: '"' :: (raw ++ ['"'])

theorem scan_valueContent {raw : List Char} (h : ∀ c ∈ raw, c ≠ '"') :
    Event.scan ('<' :: (valueContent raw ++ ['/', '>'])) = [.selfClosed (valueContent raw)] := by
  have hcut : cutTag none (valueContent raw ++ ['/', '>']) = .ok (valueContent raw ++ ['/'], []) := by
    have hquoted : cutTag none ('"' :: (raw ++ '"' :: ['/', '>'])) =
        .ok ('"' :: (raw ++ '"' :: ['/']), []) := cutTag_quoted h rfl
    have hall : cutTag none (['a', ' ', 'b', '='] ++ '"' :: (raw ++ '"' :: ['/', '>'])) =
        .ok (['a', ' ', 'b', '='] ++ '"' :: (raw ++ '"' :: ['/']), []) :=
      cutTag_append (by simp [quoteAfter]) hquoted
    simpa [valueContent] using hall
  have htag : Event.ofTag (valueContent raw ++ ['/']) = .selfClosed (valueContent raw) := by
    rw [Event.ofTag, List.getLast?_concat, List.dropLast_concat]
    · rfl
    · intro name hname
      cases hname
  rw [scan_tag (by simp [valueContent]) (by simp [valueContent]) hcut, htag, Event.scan]

theorem read_valueContent {raw : List Char} (h : ∀ c ∈ raw, c ≠ '"') :
    Tag.read (valueContent raw) =
      (unescape raw).mapError (fun f => .script (.invalidValue "b" "a" f)) >>= fun value =>
        .ok ⟨"a", [("b", String.ofList value)]⟩ := by
  have hcut : splitBefore isTagSpace (valueContent raw) =
      (['a'], ' ' :: 'b' :: '=' :: '"' :: (raw ++ ['"'])) := rfl
  have hvalue : cutValue (valueContent raw) ('"' :: (raw ++ ['"'])) = .ok (raw, []) := by
    have hquote : ∀ d ∈ raw, (d == '"') = false := fun d hd => beq_eq_false_iff_ne.mpr (h d hd)
    rw [cutValue, List.dropWhile_cons_of_neg (by decide)]
    dsimp only
    rw [if_pos (.inl rfl), splitBefore_of_forall hquote (beq_self_eq_true '"')]
  rw [Tag.read, hcut]
  dsimp only
  rw [readAttributes_cons (c := 'b') (t := '=' :: '"' :: (raw ++ ['"'])) rfl rfl rfl rfl hvalue]
  cases unescape raw with
  | error f => rfl
  | ok value =>
    rw [readAttributes]
    rfl

/-- **How a script with a reference in a value is read.** -/
theorem ofString_valueScript (hx : Verbatim x) (hr : IsBody r) :
    Element.ofString (valueScript x r) =
      match resolveInValue (byteLength x.toList + 1) r.toList with
      | .ok c => .ok (valueTree (x.push c))
      | .error f => .error (.script (.invalidValue "b" "a" f)) := by
  let raw : List Char := x.toList ++ '&' :: (r.toList ++ [';'])
  have hscript : (valueScript x r).toList = '<' :: (valueContent raw ++ ['/', '>']) := by
    simp [valueScript, valueContent, raw]
  have hraw : ∀ c ∈ raw, c ≠ '"' := by
    intro c hc
    simp only [raw, List.mem_append, List.mem_cons, List.not_mem_nil, or_false] at hc
    rcases hc with hc | rfl | hc | rfl
    · exact hx.ne hc rfl
    · decide
    · exact hr.ne hc rfl
    · decide
  rw [Element.ofString, Element.read, dropMark_of_head? (by rw [hscript]; rfl), hscript,
    scan_valueContent hraw, Building.events_cons, Building.event, read_valueContent hraw,
    unescape_reference hx hr]
  cases resolveInValue (byteLength x.toList + 1) r.toList with
  | error f => rfl
  | ok c =>
    have hpush : String.ofList (x.toList ++ [c]) = x.push c := by simp
    exact congrArg (fun s => Except.ok (valueTree s)) hpush

/-! ## 4. Both of them -/

theorem textScript_ok_iff (hx : Verbatim x) (hr : IsBody r) {c : Char} :
    Element.ofString (textScript x r) = .ok (textTree (x.push c)) ↔ resolve? r.toList = some c := by
  rw [ofString_textScript hx hr]
  cases resolve? r.toList with
  | none => simp
  | some d => simp [textTree]

theorem textScript_error_iff (hx : Verbatim x) (hr : IsBody r) :
    (∃ e, Element.ofString (textScript x r) = .error e) ↔ ∀ c, resolve? r.toList ≠ some c := by
  rw [ofString_textScript hx hr]
  cases resolve? r.toList <;> simp

theorem valueScript_ok_iff (hx : Verbatim x) (hr : IsBody r) {c : Char} :
    Element.ofString (valueScript x r) = .ok (valueTree (x.push c)) ↔ Denotes r.toList c := by
  rw [ofString_valueScript hx hr, ← resolveInValue_eq_ok_iff (byteLength x.toList + 1)]
  cases resolveInValue (byteLength x.toList + 1) r.toList with
  | error f => simp
  | ok d => simp [valueTree]

theorem valueScript_error_iff (hx : Verbatim x) (hr : IsBody r) :
    (∃ e, Element.ofString (valueScript x r) = .error e) ↔ ∀ c, ¬ Denotes r.toList c := by
  simp only [ofString_valueScript hx hr, ← resolveInValue_eq_ok_iff (byteLength x.toList + 1)]
  cases resolveInValue (byteLength x.toList + 1) r.toList <;> simp

/-- The capital mark is no mark outside of text. -/
theorem not_denotes_capital (s : List Char) (c : Char) : ¬ Denotes ('#' :: 'X' :: s) c := by
  rw [denotes_decimal_iff (by simp)]
  exact fun h => head?_ne_of_numeral? h.1 (c := 'X') rfl rfl

/-- **A reference means the same in text and in a value** where no liberty is taken.  Whatever is read in
a value is read in text, in any case, and it is what the reference stands for.  Behind the mark `#X`
nothing is read in a value, and in text what is read behind `#x`. -/
theorem ofString_reference (hx : Verbatim x) (hr : IsBody r) :
    (takesLiberty r.toList = false →
      (∀ c, Element.ofString (textScript x r) = .ok (textTree (x.push c)) ↔
        Element.ofString (valueScript x r) = .ok (valueTree (x.push c))) ∧
      ((∃ e, Element.ofString (textScript x r) = .error e) ↔
        ∃ e, Element.ofString (valueScript x r) = .error e)) ∧
    (∀ c, Element.ofString (valueScript x r) = .ok (valueTree (x.push c)) ↔ Denotes r.toList c) ∧
    (∀ c, Element.ofString (valueScript x r) = .ok (valueTree (x.push c)) →
      Element.ofString (textScript x r) = .ok (textTree (x.push c))) ∧
    ∀ s, r = "#X" ++ s →
      (∃ e, Element.ofString (valueScript x r) = .error e) ∧
      ∀ c, Element.ofString (textScript x r) = .ok (textTree (x.push c)) ↔
        Element.ofString (textScript x ("#x" ++ s)) = .ok (textTree (x.push c)) := by
  refine ⟨fun hfree => ⟨fun c => ?_, ?_⟩, fun c => valueScript_ok_iff hx hr, fun c hc => ?_, ?_⟩
  · rw [textScript_ok_iff hx hr, valueScript_ok_iff hx hr, resolve?_eq_some_iff hfree]
  · rw [textScript_error_iff hx hr, valueScript_error_iff hx hr]
    exact forall_congr' fun c => not_congr (resolve?_eq_some_iff hfree c)
  · rw [textScript_ok_iff hx hr]
    exact resolve?_of_denotes ((valueScript_ok_iff hx hr).mp hc)
  · rintro s rfl
    have hX : ("#X" ++ s).toList = '#' :: 'X' :: s.toList := by simp
    have hsmall : ("#x" ++ s).toList = '#' :: 'x' :: s.toList := by simp
    have hr' : IsBody ("#x" ++ s) := by
      intro c hc
      rw [IsBody, hX, List.forall_mem_cons, List.forall_mem_cons] at hr
      rw [hsmall, List.mem_cons, List.mem_cons] at hc
      rcases hc with rfl | rfl | hc
      · decide
      · decide
      · exact hr.2.2 c hc
    refine ⟨(valueScript_error_iff hx hr).mpr fun c => hX ▸ not_denotes_capital _ c, fun c => ?_⟩
    rw [textScript_ok_iff hx hr, textScript_ok_iff hx hr', hX, hsmall, resolve?_capital]

/-- A face is read in both places, and a capital mark in text. -/
theorem ofString_reference_to_face :
    Verbatim "x" ∧ IsBody "#x1F600" ∧ takesLiberty "#x1F600".toList = false ∧
      Element.ofString (valueScript "x" "#x1F600") = .ok (valueTree ("x".push '😀')) ∧
      Element.ofString (textScript "x" "#x1F600") = .ok (textTree ("x".push '😀')) ∧
      IsBody "#X41" ∧ ∃ e, Element.ofString (valueScript "x" "#X41") = .error e := by
  have hx : Verbatim "x" := by decide
  have hface : "#x1F600".toList = ['#', 'x', '1', 'F', '6', '0', '0'] := by rfl
  have hr : IsBody "#x1F600" := by decide
  have hfree : takesLiberty "#x1F600".toList = false := by decide
  have hmeaning : Denotes "#x1F600".toList '😀' := by
    rw [hface]
    exact .hexadecimal (by decide) (by decide)
  have hr' : IsBody "#X41" := by decide
  obtain ⟨hsame, hmeans, -, -⟩ := ofString_reference hx hr
  obtain ⟨-, -, -, hrefused⟩ := ofString_reference hx hr'
  have hvalue := (hmeans '😀').mpr hmeaning
  exact ⟨hx, hr, hfree, hvalue, ((hsame hfree).1 '😀').mpr hvalue, hr', (hrefused "41" rfl).1⟩

/-- A capital mark is read in text and refused in a value. -/
theorem ofString_reference_capital :
    Verbatim "x" ∧ IsBody "#X41" ∧
      Element.ofString (textScript "x" "#X41") = .ok (textTree ("x".push 'A')) ∧
      Element.ofString (valueScript "x" "#X41") =
        .error (.script (.invalidValue "b" "a" (.number .badDigit))) ∧
      ¬ (Element.ofString (textScript "x" "#X41") = .ok (textTree ("x".push 'A')) ↔
        Element.ofString (valueScript "x" "#X41") = .ok (valueTree ("x".push 'A'))) := by
  have hx : Verbatim "x" := by decide
  have hr : IsBody "#X41" := by decide
  have htext : Element.ofString (textScript "x" "#X41") = .ok (textTree ("x".push 'A')) :=
    (textScript_ok_iff hx hr).mpr (by decide)
  have hvalue : Element.ofString (valueScript "x" "#X41") =
      .error (.script (.invalidValue "b" "a" (.number .badDigit))) :=
    (ofString_valueScript hx hr).trans (by rfl)
  refine ⟨hx, hr, htext, hvalue, fun h => ?_⟩
  cases hvalue.symm.trans (h.mp htext)

end LecturePlan.Markup

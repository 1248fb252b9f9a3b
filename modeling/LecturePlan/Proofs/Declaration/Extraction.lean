import LecturePlan.Declaration.Extract
import LecturePlan.Proofs.Declaration.Lexicons
/-!
# What a script declares

The children of a root are read from left to right, and what is read depends on what was read before: a
deck whose id is taken is left out, and one that cannot be used takes no id.  This module says what a
script declares by its info, settings, deck and lexicon elements alone, each list by itself, and proves
that this is what the extraction finds.

- `acceptedDecks` are the decks that can be used, the first of each id; `activatedDecks` those of them that
  are asked to be shown first.
- `Extraction.Tracks` is the invariant of the loop over the children.  It takes the four lists as
  arguments, so that a step names what changes and nothing else.
- `extract_spec`: there are declarations exactly if the root is a lecture and breaks no rule, and they are
  those of the lists.  Of a lecture all broken rules are reported together, of another root its name.
-/

namespace LecturePlan

open LecturePlan.Markup

/-! ## 1. What tags declare -/

/-- The value that some tags give to an attribute.  The last one counts. -/
def attributeOf (ts : List Tag) (key : String) : Option String :=
  (ts.flatMap Tag.attributes).reverse.lookup key

/-- The deck that a tag declares, if it can be used. -/
def Markup.Tag.deck? (t : Tag) (directory : Path) (files : DeckFiles) : Option Deck := do
  let id ← t.nonEmptyAttr? "id"
  let source ← t.nonEmptyAttr? "src"
  let path := (Path.ofString source).resolve directory
  let pages ← (files.countPages path).toOption
  if path.hasExtension "pdf" ∧ files.isFile path ∧ 1 ≤ pages then
    some ⟨id, source, path, pages, ((t.attr? "fit").bind Fit.ofName?).getD .contain⟩
  else none

section Decks

variable (directory : Path) (files : DeckFiles) (ts : List Tag)

/-- The decks that can be used, with their tags. -/
def usableDecks : List (Tag × Deck) :=
  ts.filterMap fun t => (t.deck? directory files).map fun deck => (t, deck)

/-- The decks that are accepted: the first of each id that can be used. -/
def acceptedDecks : List (Tag × Deck) := firsts (fun a => a.2.id) (usableDecks directory files ts)

/-- The accepted decks that are asked to be shown first. -/
def activatedDecks : List (Tag × Deck) :=
  (acceptedDecks directory files ts).filter fun a => a.1.attr? "active" == some "true"

end Decks

/-- The lexicons that some elements declare: the first of each id. -/
def declaredLexicons (es : List Element) : List Lexicon :=
  firsts Lexicon.id (es.filterMap Element.lexicon?)

/-! ## 2. Attributes and decks -/

theorem attributeOf_append_singleton (ts : List Tag) (t : Tag) (key : String) :
    attributeOf (ts ++ [t]) key = (t.attributes.reverse.lookup key).or (attributeOf ts key) := by
  rw [attributeOf, List.flatMap_append, List.flatMap_singleton, List.reverse_append, List.lookup_append,
    attributeOf]

theorem attributeOf_append_of_isEmpty (ts : List Tag) {t : Tag} (h : t.attributes.isEmpty = true)
    (key : String) : attributeOf (ts ++ [t]) key = attributeOf ts key := by
  rw [attributeOf_append_singleton, List.isEmpty_iff.mp h]
  rfl

/-- Attributes that are copied into a table are in front of what is there. -/
theorem Table.get?_foldl_insert (as : List Attribute) (m : Table String) (key : String) :
    (as.foldl (fun m a => m.insert a.1 a.2) m).get? key = (as.reverse.lookup key).or (m.get? key) := by
  induction as generalizing m with
  | nil => rfl
  | cons a as ih =>
    rw [List.foldl_cons, ih, Table.get?_insert, List.reverse_cons, List.lookup_append, Option.or_assoc,
      List.lookup_cons]
    by_cases hkey : key = a.1
    · simp [hkey]
    · have hb : (key == a.1) = false := by simpa using hkey
      simp [hkey, hb]

theorem Settings.values_foldl_insert (as : List Attribute) (s : Settings) :
    (as.foldl (fun s a => s.insert a.1 a.2) s).values =
      as.foldl (fun m a => m.insert a.1 a.2) s.values := by
  induction as generalizing s with
  | nil => rfl
  | cons a as ih => exact ih _

theorem Table.isEmpty_iff {α : Type} {m : Table α} :
    m.isEmpty = true ↔ ∀ key, m.get? key = none := by
  rw [Table.isEmpty, List.isEmpty_iff]
  constructor
  · intro hnil key
    rw [Table.get?, hnil]
    rfl
  · intro hnone
    refine List.eq_nil_iff_forall_not_mem.mpr fun e he => ?_
    have hget := (Table.get?_eq_some_iff m e.1 e.2).mpr he
    rw [hnone] at hget
    cases hget

/-- A deck tag is read to what it declares, unless the id is taken. -/
theorem Deck.toOption_read (t : Tag) (directory : Path) (files : DeckFiles) (declared : Table Deck) :
    (Deck.read t directory files declared).toOption =
      (t.deck? directory files).filter fun deck => !declared.contains deck.id := by
  unfold Deck.read Tag.deck?
  cases t.nonEmptyAttr? "id" with
  | none => rfl
  | some id =>
    dsimp only [Option.bind_eq_bind, Option.bind_some]
    cases t.nonEmptyAttr? "src" with
    | none => cases declared.contains id <;> rfl
    | some source =>
      dsimp only [Option.bind_some]
      generalize (Path.ofString source).resolve directory = path
      cases htaken : declared.contains id <;> cases hpdf : path.hasExtension "pdf" <;>
        cases hfile : files.isFile path <;> rcases hpages : files.countPages path with e | _ | n <;>
          simp [Except.toOption, Option.filter, htaken]

theorem ok_of_toOption {ε α : Type} {x : Except ε α} {a : α} (h : x.toOption = some a) :
    x = .ok a := by
  cases x with
  | error e => cases h
  | ok b => exact congrArg Except.ok (Option.some.inj h)

theorem error_of_toOption {ε α : Type} {x : Except ε α} (h : x.toOption = none) :
    ∃ e, x = .error e := by
  cases x with
  | error e => exact ⟨e, rfl⟩
  | ok b => cases h

/-- A deck has an id and pages. -/
theorem Deck.sound_of_declared {t : Tag} {directory : Path} {files : DeckFiles} {deck : Deck}
    (h : t.deck? directory files = some deck) :
    deck.id ≠ "" ∧ files.countPages deck.path = .ok deck.pageCount ∧ 1 ≤ deck.pageCount := by
  simp only [Tag.deck?, Option.bind_eq_bind, Option.bind_eq_some_iff] at h
  obtain ⟨id, hid, source, -, pages, hpages, h⟩ := h
  split at h
  · next husable =>
    cases h
    exact ⟨by simpa using (Option.filter_eq_some_iff.mp hid).2, ok_of_toOption hpages, husable.2.2⟩
  · cases h

section Decks

variable {directory : Path} {files : DeckFiles} {ts : List Tag}

/-- A table holds the accepted decks, each under its id. -/
def ListsAccepted (directory : Path) (files : DeckFiles) (ts : List Tag) (decks : Table Deck) : Prop :=
  ∀ id, decks.get? id =
    ((acceptedDecks directory files ts).find? fun a => a.2.id == id).map Prod.snd

theorem ListsAccepted.contains {decks : Table Deck} (h : ListsAccepted directory files ts decks)
    (id : String) :
    decks.contains id = ((usableDecks directory files ts).find? fun a => a.2.id == id).isSome := by
  rw [Table.contains, h, Option.isSome_map, acceptedDecks, find?_firsts]

/-- One more deck tag is left out, or its deck is accepted. -/
theorem ListsAccepted.read_cases {decks : Table Deck} (h : ListsAccepted directory files ts decks)
    (t : Tag) :
    (∃ problem, Deck.read t directory files decks = .error problem) ∧
        acceptedDecks directory files (ts ++ [t]) = acceptedDecks directory files ts ∨
      ∃ deck, Deck.read t directory files decks = .ok deck ∧ decks.contains deck.id = false ∧
        acceptedDecks directory files (ts ++ [t]) = acceptedDecks directory files ts ++ [(t, deck)] := by
  have hread := Deck.toOption_read t directory files decks
  cases hdeck : t.deck? directory files with
  | none =>
    have husable : usableDecks directory files (ts ++ [t]) = usableDecks directory files ts := by
      simp [usableDecks, hdeck]
    rw [hdeck] at hread
    exact .inl ⟨error_of_toOption hread, by rw [acceptedDecks, husable, acceptedDecks]⟩
  | some deck =>
    have husable : usableDecks directory files (ts ++ [t]) =
        usableDecks directory files ts ++ [(t, deck)] := by
      simp [usableDecks, hdeck]
    rw [hdeck] at hread
    rw [acceptedDecks, husable, firsts_append_singleton, ← h.contains deck.id]
    cases htaken : decks.contains deck.id with
    | true =>
      rw [Option.filter, htaken] at hread
      exact .inl ⟨error_of_toOption hread, by rw [if_pos rfl, acceptedDecks]⟩
    | false =>
      rw [Option.filter, htaken] at hread
      exact .inr ⟨deck, ok_of_toOption hread, htaken, by
        rw [if_neg Bool.false_ne_true, acceptedDecks]⟩

/-- A deck with a new id is listed when it is accepted. -/
theorem ListsAccepted.insert {decks : Table Deck} (h : ListsAccepted directory files ts decks)
    {t : Tag} {deck : Deck} (hfree : decks.contains deck.id = false)
    (hnew : acceptedDecks directory files (ts ++ [t]) = acceptedDecks directory files ts ++ [(t, deck)]) :
    ListsAccepted directory files (ts ++ [t]) (decks.insert deck.id deck) := by
  intro id
  rw [Table.get?_insert, hnew, List.find?_append, List.find?_singleton]
  by_cases hid : id = deck.id
  · have hnone : decks.get? deck.id = none := by simpa [Table.contains] using hfree
    rw [h, Option.map_eq_none_iff] at hnone
    simp [hid, hnone]
  · have hne : (deck.id == id) = false := by simpa using fun h => hid h.symm
    rw [if_neg hid, h id]
    simp [hne]

/-- It is shown first if its tag asks for it. -/
theorem activatedDecks_of_accepted {t : Tag} {deck : Deck}
    (hnew : acceptedDecks directory files (ts ++ [t]) = acceptedDecks directory files ts ++ [(t, deck)]) :
    activatedDecks directory files (ts ++ [t]) =
      if t.attr? "active" = some "true" then activatedDecks directory files ts ++ [(t, deck)]
      else activatedDecks directory files ts := by
  rw [activatedDecks, hnew, List.filter_append, activatedDecks]
  by_cases hactive : t.attr? "active" = some "true" <;> simp [hactive]

end Decks

/-! ## 3. The loop over the children -/

/-- **What has been found of the info, settings and deck tags and the lexicon elements** that were read so
far. -/
structure Extraction.Tracks (root : Tag) (directory : Path) (files : DeckFiles) (is ss ds : List Tag)
    (ls : List Element) (x : Extraction) : Prop where
  infoTags : x.infoTags = is.length
  info : ∀ key, x.found.info.get? key =
    (attributeOf is key).or (if key = "title" then some defaultTitle else none)
  settingsTags : x.settingsTags = ss.length
  settings : ∀ key, x.found.settings.get? key = attributeOf ss key
  decks : ListsAccepted directory files ds x.found.decks
  activeDecks : x.activeDecks = (activatedDecks directory files ds).length
  activeDeck : x.found.activeDeck =
    (((activatedDecks directory files ds).getLast?).map fun a => a.2.id).getD ""
  lexicons : x.found.lexicons = declaredLexicons ls
  startMark : x.found.startMark = root.nonEmptyAttr? "startmark"
  endMark : x.found.endMark = root.nonEmptyAttr? "endmark"

namespace Extraction.Tracks

variable {root : Tag} {directory : Path} {files : DeckFiles} {is ss ds : List Tag} {ls : List Element}
  {x : Extraction}

theorem start (root : Tag) (directory : Path) (files : DeckFiles) :
    Tracks root directory files [] [] [] [] (.start root) where
  infoTags := rfl
  info key := by
    change (Table.insert ∅ "title" defaultTitle).get? key = _
    rw [Table.get?_insert, Table.get?_emptyCollection]
    rfl
  settingsTags := rfl
  settings _ := rfl
  decks _ := rfl
  activeDecks := rfl
  activeDeck := rfl
  lexicons := rfl
  startMark := rfl
  endMark := rfl

theorem warn (h : Tracks root directory files is ss ds ls x) (ws : List Warning) :
    Tracks root directory files is ss ds ls (x.warn ws) :=
  { h with }

theorem tell (h : Tracks root directory files is ss ds ls x) (ns : List Notice) :
    Tracks root directory files is ss ds ls (x.tell ns) :=
  { h with }

theorem addInfo (h : Tracks root directory files is ss ds ls x) (t : Tag) :
    Tracks root directory files (is ++ [t]) ss ds ls (x.info t) := by
  have hcount : x.infoTags + 1 = (is ++ [t]).length := by rw [h.infoTags, List.length_append]; rfl
  unfold Extraction.info
  dsimp only
  split
  · next hempty =>
    have hinfo := h.info
    have hread : Tracks root directory files (is ++ [t]) ss ds ls
        { x with infoTags := x.infoTags + 1 } := { h with
      infoTags := hcount
      info := fun key => by rw [hinfo, attributeOf_append_of_isEmpty is hempty] }
    exact hread.warn _
  · have hinfo := h.info
    refine { h with infoTags := hcount, info := fun key => ?_ }
    rw [Table.get?_foldl_insert, hinfo, attributeOf_append_singleton, Option.or_assoc]

theorem addSettings (h : Tracks root directory files is ss ds ls x) (t : Tag) :
    Tracks root directory files is (ss ++ [t]) ds ls (x.settings t) := by
  have hcount : x.settingsTags + 1 = (ss ++ [t]).length := by
    rw [h.settingsTags, List.length_append]; rfl
  unfold Extraction.settings
  dsimp only
  split
  · next hempty =>
    have hsettings := h.settings
    have hread : Tracks root directory files is (ss ++ [t]) ds ls
        { x with settingsTags := x.settingsTags + 1 } := { h with
      settingsTags := hcount
      settings := fun key => by rw [hsettings, attributeOf_append_of_isEmpty ss hempty] }
    exact hread.warn _
  · have hsettings := h.settings
    refine { h with settingsTags := hcount, settings := fun key => ?_ }
    rw [Settings.get?, Settings.values_foldl_insert, Table.get?_foldl_insert,
      attributeOf_append_singleton, ← hsettings]
    rfl

/-- A deck tag that is left out is only warned of, and an accepted one is the last in its lists. -/
theorem addDeck (h : Tracks root directory files is ss ds ls x) (t : Tag) :
    Tracks root directory files is ss (ds ++ [t]) ls (x.deck t directory files) := by
  unfold Extraction.deck
  rcases h.decks.read_cases t with ⟨⟨problem, hread⟩, hsame⟩ | ⟨deck, hread, hfree, hnew⟩
  · have hactive : activatedDecks directory files (ds ++ [t]) = activatedDecks directory files ds := by
      rw [activatedDecks, hsame, activatedDecks]
    have hdecks := h.decks
    have hcount := h.activeDecks
    have hfirst := h.activeDeck
    rw [hread]
    refine Tracks.warn { h with decks := fun id => ?_, activeDecks := ?_, activeDeck := ?_ } _
    · rw [hsame]
      exact hdecks id
    · rw [hactive, hcount]
    · rw [hactive, hfirst]
  · have hactive := activatedDecks_of_accepted hnew
    have hdecks := h.decks.insert hfree hnew
    have hcount := h.activeDecks
    have hfirst := h.activeDeck
    rw [hread]
    dsimp only
    split
    · next hasked =>
      rw [if_pos hasked] at hactive
      exact { h with
        decks := hdecks
        activeDecks := by rw [hactive, List.length_append, ← hcount]; rfl
        activeDeck := by rw [hactive, List.getLast?_concat]; rfl }
    · next hasked =>
      rw [if_neg hasked] at hactive
      exact { h with
        decks := hdecks
        activeDecks := by rw [hactive]; exact hcount
        activeDeck := by rw [hactive]; exact hfirst }

/-- A lexicon with a new id is one more of those declared. -/
theorem declaredLexicons_append (h : Tracks root directory files is ss ds ls x) {e : Element}
    {l : Lexicon} (hread : e.lexicon? = some l) :
    declaredLexicons (ls ++ [e]) =
      if (x.found.lexicon? l.id).isSome then x.found.lexicons else x.found.lexicons ++ [l] := by
  have hdeclared : (ls ++ [e]).filterMap Element.lexicon? = ls.filterMap Element.lexicon? ++ [l] := by
    simp [hread]
  rw [Declarations.lexicon?, h.lexicons, declaredLexicons, hdeclared, firsts_append_singleton,
    ← find?_firsts, declaredLexicons]

theorem addLexicon (h : Tracks root directory files is ss ds ls x) (e : Element) :
    Tracks root directory files is ss ds (ls ++ [e]) (x.lexicon e) := by
  have hwarned := h.warn (Lexicon.read e).2
  unfold Extraction.lexicon
  dsimp only
  rw [Lexicon.read_fst]
  cases hread : e.lexicon? with
  | none =>
    have hlexicons := hwarned.lexicons
    have hsame : declaredLexicons (ls ++ [e]) = declaredLexicons ls := by
      simp [declaredLexicons, hread]
    exact { hwarned with lexicons := by rw [hsame, hlexicons] }
  | some l =>
    have htold := hwarned.tell [.lexiconFound l.id l.lexemes.length]
    have hnext := htold.declaredLexicons_append hread
    dsimp only
    split
    · next htaken =>
      rw [if_pos htaken] at hnext
      exact Tracks.warn { htold with lexicons := hnext.symm } _
    · next hfree =>
      rw [if_neg hfree] at hnext
      exact { htold with lexicons := hnext.symm }

end Extraction.Tracks

/-- The elements of some with a name. -/
def elementsNamed (name : String) (es : List Element) : List Element :=
  es.filter fun e => e.tag.name == name

/-- The tags of those elements. -/
def tagsNamed (name : String) (es : List Element) : List Tag := (elementsNamed name es).map Element.tag

theorem elementsNamed_append_singleton (name : String) (es : List Element) (e : Element) :
    elementsNamed name (es ++ [e]) =
      if e.tag.name = name then elementsNamed name es ++ [e] else elementsNamed name es := by
  rw [elementsNamed, List.filter_append, elementsNamed]
  by_cases h : e.tag.name = name <;> simp [h]

theorem tagsNamed_append_singleton (name : String) (es : List Element) (e : Element) :
    tagsNamed name (es ++ [e]) =
      if e.tag.name = name then tagsNamed name es ++ [e.tag] else tagsNamed name es := by
  rw [tagsNamed, elementsNamed_append_singleton]
  split
  · rw [List.map_append]
    rfl
  · rfl

/-- What has been found of all elements that were read so far. -/
def Extraction.Follows (root : Tag) (directory : Path) (files : DeckFiles) (es : List Element)
    (x : Extraction) : Prop :=
  Tracks root directory files (tagsNamed "info" es) (tagsNamed "settings" es) (tagsNamed "deck" es)
    (elementsNamed "lexicon" es) x

namespace Extraction.Follows

variable {root : Tag} {directory : Path} {files : DeckFiles} {es : List Element} {x : Extraction}

/-- One more child is read: at most one of the four lists has it. -/
theorem child (h : Follows root directory files es x) (e : Element) :
    Follows root directory files (es ++ [e]) (x.child e directory files) := by
  unfold Follows at h ⊢
  simp only [tagsNamed_append_singleton, elementsNamed_append_singleton]
  unfold Extraction.child
  split
  · next hname =>
    simp only [hname, String.reduceEq, if_false]
    exact h.addInfo e.tag
  · split
    · next hname =>
      simp only [hname, String.reduceEq, if_false]
      exact h.addSettings e.tag
    · split
      · next hname =>
        simp only [hname, String.reduceEq, if_false]
        exact h.addDeck e.tag
      · split
        · exact h.addLexicon e
        · exact h

/-- **The loop finds what is declared.** -/
theorem foldl (root : Tag) (directory : Path) (files : DeckFiles) (es : List Element) :
    Follows root directory files es
      (es.foldl (fun x e => x.child e directory files) (.start root)) := by
  induction es using List.reverseRecOn with
  | nil => exact .start root directory files
  | append_singleton es e ih =>
    rw [List.foldl_append]
    exact ih.child e

end Extraction.Follows

/-! ## 4. Rules for a script -/

section Rules

variable (root : Element) (directory : Path) (files : DeckFiles)

/-- The tags of the children of a root with a name. -/
def Markup.Element.childTags (root : Element) (name : String) : List Tag :=
  tagsNamed name root.childElements

/-- The accepted decks of a script. -/
def scriptDecks : List (Tag × Deck) := acceptedDecks directory files (root.childTags "deck")

/-- Those that are asked to be shown first. -/
def scriptActiveDecks : List (Tag × Deck) := activatedDecks directory files (root.childTags "deck")

/-- Whether a script breaks the rule that an issue is about. -/
def Issue.isBroken : Issue → Bool
  | .unexpectedRoot name => root.tag.name = name ∧ name ≠ rootName
  | .severalInfos => 1 < (root.childTags "info").length
  | .severalSettings => 1 < (root.childTags "settings").length
  | .noDecks => scriptDecks root directory files = []
  | .noActiveDeck => scriptDecks root directory files ≠ [] ∧ scriptActiveDecks root directory files = []
  | .severalActiveDecks => 1 < (scriptActiveDecks root directory files).length

/-- All rules that a script breaks, in the order in which the issues are listed. -/
def brokenRules : List Issue :=
  [.unexpectedRoot root.tag.name, .severalInfos, .severalSettings, .noDecks, .noActiveDeck,
    .severalActiveDecks].filter fun issue => issue.isBroken root directory files

end Rules

/-- **What is found is what a script declares.** -/
structure Declarations.Describes (root : Element) (directory : Path) (files : DeckFiles)
    (d : Declarations) : Prop where
  info : ∀ key, d.info.get? key =
    (attributeOf (root.childTags "info") key).or (if key = "title" then some defaultTitle else none)
  settings : ∀ key, d.settings.get? key = attributeOf (root.childTags "settings") key
  /-- Under each id stands the deck that is accepted with it. -/
  decks : ∀ id, d.deck? id =
    ((scriptDecks root directory files).find? fun a => a.2.id == id).map Prod.snd
  pages : ∀ id deck, d.deck? id = some deck →
    deck.id = id ∧ files.countPages deck.path = .ok deck.pageCount ∧ 1 ≤ deck.pageCount
  /-- The deck that is shown first is the one that asks for it, and it is declared. -/
  active : ∃ a, scriptActiveDecks root directory files = [a] ∧ d.activeDeck = a.2.id ∧
    d.deck? d.activeDeck = some a.2
  lexicons : d.lexicons = declaredLexicons (elementsNamed "lexicon" root.childElements)
  lexicon_ids : (d.lexicons.map Lexicon.id).Nodup
  lexemes : ∀ x ∈ d.lexicons, x.id ≠ "" ∧ x.lexemes ≠ [] ∧ (x.lexemes.map Lexeme.grapheme).Nodup
  startMark : d.startMark = root.tag.nonEmptyAttr? "startmark"
  endMark : d.endMark = root.tag.nonEmptyAttr? "endmark"

section Outcome

variable {root : Element} {directory : Path} {files : DeckFiles} {x : Extraction}

theorem Extraction.Follows.decks_isEmpty
    (h : Follows root.tag directory files root.childElements x) :
    x.found.decks.isEmpty = true ↔ scriptDecks root directory files = [] := by
  rw [Table.isEmpty_iff]
  constructor
  · intro hnone
    refine List.eq_nil_iff_forall_not_mem.mpr fun a ha => ?_
    have hmiss := hnone a.2.id
    rw [h.decks, Option.map_eq_none_iff] at hmiss
    simpa using List.find?_eq_none.mp hmiss a ha
  · intro hnil id
    rw [h.decks]
    change (List.find? _ (scriptDecks root directory files)).map Prod.snd = none
    rw [hnil]
    rfl

theorem scriptActiveDecks_eq_nil (h : scriptDecks root directory files = []) :
    scriptActiveDecks root directory files = [] := by
  change (scriptDecks root directory files).filter _ = []
  rw [h]
  rfl

/-- No rule is broken inside of a lecture with one active deck. -/
theorem brokenRules_eq_nil_iff (hroot : root.tag.name = rootName) :
    brokenRules root directory files = [] ↔
      (root.childTags "info").length ≤ 1 ∧ (root.childTags "settings").length ≤ 1 ∧
        (scriptActiveDecks root directory files).length = 1 := by
  have hsplit : brokenRules root directory files = [] ↔
      (root.childTags "info").length ≤ 1 ∧ (root.childTags "settings").length ≤ 1 ∧
        scriptDecks root directory files ≠ [] ∧
        (scriptDecks root directory files = [] ∨ scriptActiveDecks root directory files ≠ []) ∧
        (scriptActiveDecks root directory files).length ≤ 1 := by
    rw [brokenRules, List.filter_eq_nil_iff]
    simp only [List.forall_mem_cons]
    simp [Issue.isBroken, hroot, or_iff_not_imp_left]
  rw [hsplit]
  rcases hlist : scriptActiveDecks root directory files with _ | ⟨a, _ | ⟨b, more⟩⟩
  · simp
  · have hsome : scriptDecks root directory files ≠ [] := fun hnil => by
      rw [scriptActiveDecks_eq_nil hnil] at hlist
      cases hlist
    simp [hsome]
  · simp

/-- In a lecture the issues are the rules that are broken. -/
theorem Extraction.Follows.issues_eq (h : Follows root.tag directory files root.childElements x)
    (hroot : root.tag.name = rootName) : x.issues = brokenRules root directory files := by
  have hinfos : x.infoTags = (root.childTags "info").length := h.infoTags
  have hsettings : x.settingsTags = (root.childTags "settings").length := h.settingsTags
  have hactive : x.activeDecks = (scriptActiveDecks root directory files).length := h.activeDecks
  have hrules : brokenRules root directory files =
      (if 1 < x.infoTags then [.severalInfos] else []) ++
        ((if 1 < x.settingsTags then [.severalSettings] else []) ++
          [.noDecks, .noActiveDeck, .severalActiveDecks].filter fun issue =>
            issue.isBroken root directory files) := by
    rw [brokenRules, List.filter_cons_of_neg (by simp [Issue.isBroken, hroot]), hinfos, hsettings,
      List.filter_cons, List.filter_cons]
    by_cases hi : 1 < (root.childTags "info").length <;>
      by_cases hs : 1 < (root.childTags "settings").length <;>
      simp [Issue.isBroken, hi, hs]
  rw [hrules, issues, List.append_assoc]
  congr 2
  by_cases hempty : scriptDecks root directory files = []
  · rw [if_pos (h.decks_isEmpty.mpr hempty)]
    simp [Issue.isBroken, hempty, scriptActiveDecks_eq_nil hempty]
  · rw [if_neg (fun hb => hempty (h.decks_isEmpty.mp hb)), hactive]
    rcases hlist : scriptActiveDecks root directory files with _ | ⟨a, _ | ⟨b, more⟩⟩ <;>
      simp [Issue.isBroken, hempty, hlist]

theorem Extraction.Follows.describes (h : Follows root.tag directory files root.childElements x)
    (hactive : (scriptActiveDecks root directory files).length = 1) :
    x.found.Describes root directory files := by
  obtain ⟨a, ha⟩ := List.length_eq_one_iff.mp hactive
  have hmem : a ∈ scriptDecks root directory files := by
    have hfilter : a ∈ scriptActiveDecks root directory files := by simp [ha]
    exact (List.mem_filter.mp hfilter).1
  have hfirst : x.found.activeDeck = a.2.id := by
    have hlast : x.found.activeDeck =
        (((scriptActiveDecks root directory files).getLast?).map fun a => a.2.id).getD "" := h.activeDeck
    rw [hlast, ha]
    rfl
  exact {
    info := h.info
    settings := h.settings
    decks := h.decks
    pages := fun id deck hdeck => by
      obtain ⟨b, hb, rfl⟩ := Option.map_eq_some_iff.mp ((h.decks id).symm.trans hdeck)
      have husable := (sublist_firsts _).subset (List.mem_of_find?_eq_some hb)
      obtain ⟨t, -, ht⟩ := List.mem_filterMap.mp husable
      obtain ⟨deck, hdeclared, rfl⟩ := Option.map_eq_some_iff.mp ht
      exact ⟨by simpa using List.find?_some hb, (Deck.sound_of_declared hdeclared).2⟩
    active := by
      refine ⟨a, ha, hfirst, ?_⟩
      have hfound : ((scriptDecks root directory files).find? fun b => b.2.id == a.2.id) = some a :=
        find?_eq_some_of_nodup (nodup_firsts _) hmem
      have hget : x.found.deck? a.2.id =
          ((scriptDecks root directory files).find? fun b => b.2.id == a.2.id).map Prod.snd :=
        h.decks a.2.id
      rw [hfirst, hget, hfound, Option.map_some]
    lexicons := h.lexicons
    lexicon_ids := by
      rw [h.lexicons]
      exact nodup_firsts _
    lexemes := fun l hl => by
      rw [h.lexicons] at hl
      obtain ⟨e, -, he⟩ := List.mem_filterMap.mp ((sublist_firsts _).subset hl)
      exact Lexicon.sound_of_declared he
    startMark := h.startMark
    endMark := h.endMark }

end Outcome

/-- **There are declarations exactly if a script is well configured**, and they are what its elements
declare.  Of a lecture that is not, all broken rules are reported together.  Of a root with another name
that name is the only issue, whatever stands inside of it. -/
theorem Declarations.extract_spec (root : Element) (directory : Path) (files : DeckFiles) :
    ((∃ d, extract root directory files = .ok d) ↔
      root.tag.name = rootName ∧ (root.childTags "info").length ≤ 1 ∧
        (root.childTags "settings").length ≤ 1 ∧
        (scriptActiveDecks root directory files).length = 1) ∧
      (∀ issues, extract root directory files = .error issues →
        issues = if root.tag.name = rootName then brokenRules root directory files
          else [.unexpectedRoot root.tag.name]) ∧
      ∀ d, extract root directory files = .ok d → d.Describes root directory files := by
  have hfollows : (Extraction.ofRoot root directory files).Follows root.tag directory files
    root.childElements := .foldl root.tag directory files root.childElements
  by_cases hroot : root.tag.name = rootName
  · have hrules : brokenRules root directory files = [] ↔ _ := brokenRules_eq_nil_iff hroot
    have hissues := hfollows.issues_eq hroot
    unfold extract
    rw [if_neg (not_not_intro hroot)]
    dsimp only
    rw [hissues]
    cases hbroken : brokenRules root directory files with
    | nil =>
      have hwell := hrules.mp hbroken
      refine ⟨⟨fun _ => ⟨hroot, hwell⟩, fun _ => ⟨_, rfl⟩⟩, fun _ h => (by cases h), fun d h => ?_⟩
      cases h
      exact hfollows.describes hwell.2.2
    | cons issue more =>
      refine ⟨⟨fun ⟨d, h⟩ => (by cases h), fun h => ?_⟩, fun issues h => ?_, fun d h => by cases h⟩
      · rw [hrules.mpr h.2] at hbroken
        cases hbroken
      · cases h
        rw [if_pos hroot]
  · unfold extract
    rw [if_pos hroot]
    refine ⟨⟨fun ⟨d, h⟩ => (by cases h), fun h => absurd h.1 hroot⟩, fun issues h => ?_,
      fun d h => by cases h⟩
    cases h
    rw [if_neg hroot]

/-- A deck whose file is missing takes no id and is not shown first, and a deck whose id is taken is left
out. -/
example :
    let deck (id src : String) : Node :=
      .element ⟨"deck", [("id", id), ("src", src), ("active", "true")]⟩ []
    let root : Element := ⟨⟨"lecture", []⟩, [deck "ok" "gone.pdf", deck "ok" "a.PDF", deck "ok" "b.pdf"]⟩
    let files : DeckFiles := ⟨fun path => path.toString != "gone.pdf", fun _ => .ok 3⟩
    (Declarations.extract root .here files).toOption.map (fun d => (d.activeDeck, d.decks.values.map Deck.source)) =
      some ("ok", ["a.PDF"]) := by
  decide +kernel

/-- The root is looked at first.  In a document of another kind with two info tags, only the root is
reported, though the rules about info tags and decks are broken as well. -/
theorem Declarations.extract_ne_brokenRules :
    let root : Element := ⟨⟨"speak", []⟩,
      [.element ⟨"info", [("title", "A")]⟩ [], .element ⟨"info", [("title", "B")]⟩ []]⟩
    let files : DeckFiles := ⟨fun _ => false, fun _ => .error "no entry"⟩
    extract root .here files = .error [.unexpectedRoot "speak"] ∧
      brokenRules root .here files = [.unexpectedRoot "speak", .severalInfos, .noDecks] ∧
      extract root .here files ≠ .error (brokenRules root .here files) := by
  intro root files
  have hextract : extract root .here files = .error [.unexpectedRoot "speak"] := rfl
  have hrules : brokenRules root .here files =
      [.unexpectedRoot "speak", .severalInfos, .noDecks] := by decide
  refine ⟨hextract, hrules, ?_⟩
  rw [hextract, hrules]
  simp

end LecturePlan

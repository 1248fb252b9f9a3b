import LecturePlan.Declaration.Lexicon
import LecturePlan.Declaration.Settings
import LecturePlan.Notice
import LecturePlan.Path
import LecturePlan.Plan.Fit
/-!
# Declarations

The direct children `info`, `settings`, `deck` and `lexicon` of a `lecture` element configure a
script.  A declaration that cannot be used is reported and left out.  What concerns the script as a
whole is an issue: all issues are found together, and with any of them there are no declarations.
Main definition: `Declarations.extract`.
-/

namespace LecturePlan

open LecturePlan.Markup

/-! ## 1. What is declared -/

/-- A deck of slides. -/
structure Deck where
  id : String
  /-- The file as the script names it. -/
  source : String
  /-- Where the file is. -/
  path : Path
  pageCount : Nat
  fit : Fit
deriving DecidableEq, Repr

/-- The declarations of a script. -/
structure Declarations where
  /-- The attributes of the info tag; there is always a title. -/
  info : Table String
  settings : Settings
  decks : Table Deck
  /-- The deck that is shown first. -/
  activeDeck : String
  lexicons : List Lexicon
  /-- The mark before which everything is dropped. -/
  startMark : Option String
  /-- The mark after which everything is dropped. -/
  endMark : Option String
  warnings : List Warning
deriving DecidableEq

/-- The title of a script that has none. -/
def defaultTitle : String := "No Title"

/-- Names of the elements that declare and are not spoken. -/
def isDeclaration (name : String) : Bool :=
  name == "info" || name == "settings" || name == "deck" || name == "lexicon"

/-- A problem of the script as a whole. -/
inductive Issue where
  | unexpectedRoot (name : String)
  | severalInfos
  | severalSettings
  | noDecks
  | noActiveDeck
  | severalActiveDecks
deriving DecidableEq, Repr

/-- The wording of an issue. -/
def Issue.message : Issue → String
  | .unexpectedRoot name => "expected <lecture> as the root element, but got <" ++ name ++ ">"
  | .severalInfos => "at most one <info/> tag is allowed inside <lecture>"
  | .severalSettings => "at most one <settings/> tag is allowed inside <lecture>"
  | .noDecks => "at least one valid <deck/> tag is required inside <lecture>"
  | .noActiveDeck => "one <deck active=\"true\"/> tag must be set as active"
  | .severalActiveDecks => "multiple <deck/> tags can't be set as active"

/-- The wording of all issues together. -/
def issuesMessage (issues : List Issue) : String :=
  "invalid document configuration: " ++ String.intercalate "; " (issues.map Issue.message)

/-- What is known of the files around a script. -/
structure DeckFiles where
  /-- Whether a path leads to a file. -/
  isFile : Path → Bool
  /-- The number of pages of a file, or why they cannot be counted. -/
  countPages : Path → Except String Nat

namespace Declarations

/-- Nothing is declared. -/
def empty : Declarations where
  info := Table.ofList [("title", defaultTitle)]
  settings := .empty
  decks := ∅
  activeDeck := ""
  lexicons := []
  startMark := none
  endMark := none
  warnings := []

/-- The title of the script. -/
def title (d : Declarations) : String := (d.info.get? "title").getD defaultTitle

/-- A declared deck. -/
def deck? (d : Declarations) (id : String) : Option Deck := d.decks.get? id

/-- The first lexicon declared with an id. -/
def lexicon? (d : Declarations) (id : String) : Option Lexicon :=
  d.lexicons.find? fun x => x.id == id

end Declarations

/-! ## 2. Decks -/

/-- Reads a deck tag, given the decks that are declared before it: the deck, or the problem. -/
def Deck.read (t : Tag) (directory : Path) (files : DeckFiles) (declared : Table Deck) :
    Except Problem Deck :=
  match t.nonEmptyAttr? "id" with
  | none => .error .deckWithoutId
  | some id =>
    if declared.contains id then .error (.deckRepeated id)
    else match t.nonEmptyAttr? "src" with
    | none => .error (.deckWithoutSource id)
    | some source =>
      let path := (Path.ofString source).resolve directory
      if !path.hasExtension "pdf" then .error (.deckNotPdf id source)
      else if !files.isFile path then .error (.deckMissing id source path.toString)
      else match files.countPages path with
      | .error reason => .error (.deckUnreadable id source reason)
      | .ok 0 => .error (.deckWithoutPages id source)
      | .ok n => .ok ⟨id, source, path, n, ((t.attr? "fit").bind Fit.ofName?).getD .contain⟩

/-! ## 3. Extraction -/

/-- What has been found so far. -/
structure Extraction where
  found : Declarations
  infoTags : Nat
  settingsTags : Nat
  activeDecks : Nat
  /-- What is told on the way. -/
  notices : List Notice

namespace Extraction

/-- Tells something. -/
def tell (x : Extraction) (ns : List Notice) : Extraction := { x with notices := x.notices ++ ns }

/-- Adds warnings. -/
def warn (x : Extraction) (ws : List Warning) : Extraction :=
  { x.tell (ws.map .warning) with
    found := { x.found with warnings := x.found.warnings ++ ws } }

/-- Takes an info tag. -/
def info (x : Extraction) (t : Tag) : Extraction :=
  let x := { x with infoTags := x.infoTags + 1 }
  if t.attributes.isEmpty then x.warn [⟨t.name, .noAttributes⟩]
  else
    let info := t.attributes.foldl (fun m a => m.insert a.1 a.2) x.found.info
    { x with found := { x.found with info } }

/-- Takes a settings tag. -/
def settings (x : Extraction) (t : Tag) : Extraction :=
  let x := { x with settingsTags := x.settingsTags + 1 }
  if t.attributes.isEmpty then x.warn [⟨t.name, .noAttributes⟩]
  else
    let settings := t.attributes.foldl (fun s a => s.insert a.1 a.2) x.found.settings
    { x with found := { x.found with settings } }

/-- Takes a deck tag. -/
def deck (x : Extraction) (t : Tag) (directory : Path) (files : DeckFiles) : Extraction :=
  match Deck.read t directory files x.found.decks with
  | .error p => x.warn [⟨"deck", p⟩]
  | .ok d =>
    let x := x.tell [.deckFound d.source d.id d.pageCount]
    let found := { x.found with decks := x.found.decks.insert d.id d }
    if t.attr? "active" = some "true" then
      { x with found := { found with activeDeck := d.id }, activeDecks := x.activeDecks + 1 }
    else { x with found }

/-- Takes a lexicon element. -/
def lexicon (x : Extraction) (e : Element) : Extraction :=
  let read := Lexicon.read e
  let x := x.warn read.2
  match read.1 with
  | none => x
  | some l =>
    let x := x.tell [.lexiconFound l.id l.lexemes.length]
    if (x.found.lexicon? l.id).isSome then x.warn [⟨"lexicon", .lexiconRepeated l.id⟩]
    else { x with found := { x.found with lexicons := x.found.lexicons ++ [l] } }

/-- Takes a child of the root; what does not declare is left for later. -/
def child (x : Extraction) (e : Element) (directory : Path) (files : DeckFiles) : Extraction :=
  if e.tag.name = "info" then x.info e.tag
  else if e.tag.name = "settings" then x.settings e.tag
  else if e.tag.name = "deck" then x.deck e.tag directory files
  else if e.tag.name = "lexicon" then x.lexicon e
  else x

/-- What is wrong with the script as a whole, in a fixed order. -/
def issues (x : Extraction) : List Issue :=
  (if 1 < x.infoTags then [.severalInfos] else []) ++
    (if 1 < x.settingsTags then [.severalSettings] else []) ++
    (if x.found.decks.isEmpty then [.noDecks]
      else if x.activeDecks = 0 then [.noActiveDeck]
      else if 1 < x.activeDecks then [.severalActiveDecks]
      else [])

/-- Before the children of a root. -/
def start (root : Tag) : Extraction :=
  let found := { Declarations.empty with
    startMark := root.nonEmptyAttr? "startmark"
    endMark := root.nonEmptyAttr? "endmark" }
  ⟨found, 0, 0, 0, []⟩

/-- After all children of a root. -/
def ofRoot (root : Element) (directory : Path) (files : DeckFiles) : Extraction :=
  root.childElements.foldl (fun x e => x.child e directory files) (start root.tag)

end Extraction

/-- The name of the root of a script. -/
def rootName : String := "lecture"

/-- Reads the declarations of a script whose file is in a given directory. -/
def Declarations.extract (root : Element) (directory : Path) (files : DeckFiles) :
    Except (List Issue) Declarations :=
  if root.tag.name ≠ rootName then .error [.unexpectedRoot root.tag.name]
  else
    let x := Extraction.ofRoot root directory files
    match x.issues with
    | [] => .ok x.found
    | issues => .error issues

/-- What is told while declarations are read. -/
def Declarations.notices (root : Element) (directory : Path) (files : DeckFiles) : List Notice :=
  if root.tag.name ≠ rootName then [] else (Extraction.ofRoot root directory files).notices

end LecturePlan

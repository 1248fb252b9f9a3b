import LecturePlan.Compile.ClipTag
import LecturePlan.Compile.Content
import LecturePlan.Compile.PageRequest
import LecturePlan.Declaration.Extract
/-!
# What splitting tags do

Content is compiled from left to right.  Text and most elements are collected; a splitting tag ends
the section in progress and changes what the following sections are built from: the voice, the
frame, the marks.  This module holds the state of that process and what each splitting tag does to
it.  A tag that cannot be used is reported and changes nothing else.
-/

namespace LecturePlan

open LecturePlan.Markup

/-- What stays the same while content is compiled. -/
structure Scene where
  declarations : Declarations
  /-- The directory that media paths start from. -/
  directory : Path
  /-- Whether a path leads to a file. -/
  isFile : Path → Bool
  /-- Whether the last frame of a video stays, where its tag does not say. -/
  keepFrame : Bool

/-- What changes while content is compiled. -/
structure Progress (ρ : Type) where
  registry : ρ
  nextId : Nat
  voice : String
  frame : Frame
  /-- The deck of slide tags that name none. -/
  slideDeck : String
  /-- The page that each deck has shown last. -/
  pages : Table Nat
  content : Content
  /-- Whether the end mark has been reached, after which nothing is taken in. -/
  ended : Bool
  plan : Plan
  /-- What is told on the way. -/
  notices : List Notice

namespace Progress

variable {ρ : Type}

/-! ## 1. Sections and warnings -/

/-- Adds a section with the next id. -/
def addSection (p : Progress ρ) (kind : SectionKind) : Progress ρ :=
  { p with
    plan := { p.plan with sections := p.plan.sections ++ [⟨p.nextId, kind⟩] }
    nextId := p.nextId + 1 }

/-- Turns the collected content into a speech section, if there is any text in it. -/
def flush (p : Progress ρ) : Progress ρ :=
  if p.ended || !p.content.hasText then p
  else
    let p := p.addSection (.speech p.frame p.voice p.content.render)
    { p with content := p.content.reset }

/-- Tells something. -/
def tell (p : Progress ρ) (ns : List Notice) : Progress ρ := { p with notices := p.notices ++ ns }

/-- Adds warnings. -/
def addWarnings (p : Progress ρ) (ws : List Warning) : Progress ρ :=
  { p.tell (ws.map .warning) with plan := { p.plan with warnings := p.plan.warnings ++ ws } }

/-- Adds a warning about a tag. -/
def warn (p : Progress ρ) (t : Tag) (problem : Problem) : Progress ρ :=
  p.addWarnings [⟨t.name, problem⟩]

/-- Reads a fit, and reports one that is unknown. -/
def readFit (t : Tag) : Option Fit × List Warning :=
  match t.attr? "fit" with
  | none => (none, [])
  | some value =>
    match Fit.ofName? value with
    | some f => (some f, [])
    | none => (none, [⟨t.name, .fitUnknown value⟩])

/-! ## 2. Marks -/

/-- Drops all sections, chapters and marks so far, and counts from one again. -/
def restart (p : Progress ρ) : Progress ρ :=
  { p with
    plan := { p.plan with sections := [], chapters := [], marks := ∅ }
    content := p.content.reset
    nextId := 1 }

/-- Sets a mark, with a chapter if the tag has a title. -/
def setMark (p : Progress ρ) (name : String) (title : Option String) : Progress ρ :=
  let chapters := match title with
    | some title => p.plan.chapters ++ [⟨title, name, p.nextId⟩]
    | none => p.plan.chapters
  { p with plan := { p.plan with marks := p.plan.marks.insert name p.nextId, chapters } }

/-- What a mark tag does. -/
def mark (s : Scene) (t : Tag) (p : Progress ρ) : Progress ρ :=
  match t.nonEmptyAttr? "name" with
  | none => p.warn t .markWithoutName
  | some name =>
    if p.plan.marks.contains name then p.warn t (.markRepeated name)
    else
      let p := if s.declarations.startMark = some name then p.restart.tell [.startReached name] else p
      let p := p.setMark name (t.nonEmptyAttr? "chapter")
      if s.declarations.endMark = some name then { p.tell [.endReached name] with ended := true }
      else p

/-! ## 3. Voices -/

/-- What a voice tag does. -/
def voiceTag [VoiceRegistry ρ] (t : Tag) (p : Progress ρ) : Progress ρ :=
  match t.nonEmptyAttr? "name" with
  | none => p.warn t .voiceWithoutName
  | some name =>
    let asked := VoiceRegistry.hasVoice p.registry name
    let p := { p with registry := asked.2 }
    match asked.1 with
    | .ok true => { p with voice := name }
    | .ok false => p.warn t (.voiceUnknown name)
    | .error e => p.warn t (.voiceNotLookedUp name e)

/-! ## 4. Frames -/

/-- What an image tag does. -/
def image (s : Scene) (t : Tag) (p : Progress ρ) : Progress ρ :=
  match t.nonEmptyAttr? "src" with
  | none => p.warn t .imageWithoutSource
  | some source =>
    let path := (Path.ofString source).resolve s.directory
    if !s.isFile path then p.warn t (.imageMissing source path.toString)
    else
      let fit := readFit t
      let found := internImage path p.plan.images
      let p := p.addWarnings fit.2
      { p with
        plan := { p.plan with images := found.2 }
        frame := .image found.1 (fit.1.getD .contain) }

/-- The page that a slide tag asks for, or what is wrong with it. -/
def pageRequest (t : Tag) : Except Problem PageRequest :=
  match t.nonEmptyAttr? "page" with
  | some value =>
    match PageRequest.ofString? value with
    | some r => .ok r
    | none => .error (.pageInvalid value)
  | none => if (t.nonEmptyAttr? "deck").isSome then .ok .current else .error .slideWithoutPage

/-- The deck that a slide tag turns a page of, and the page it asks for, or what is wrong. -/
def slideTarget (s : Scene) (t : Tag) (p : Progress ρ) :
    Except Problem (String × Deck × PageRequest) := do
  let id ← match t.nonEmptyAttr? "deck" with
    | some id =>
      if (s.declarations.deck? id).isNone then .error (.deckUndeclared id) else .ok id
    | none => .ok p.slideDeck
  let request ← pageRequest t
  match s.declarations.deck? id with
  | some deck => .ok (id, deck, request)
  | none => .error (.slideDeckUndeclared id)

/-- Shows a page of a deck. -/
def showPage (p : Progress ρ) (id : String) (page : Nat) (fit : Fit) : Progress ρ :=
  { p with
    pages := p.pages.insert id page
    slideDeck := id
    frame := .slide id page fit }

/-- What a slide tag does. -/
def slide (s : Scene) (t : Tag) (p : Progress ρ) : Progress ρ :=
  match slideTarget s t p with
  | .error problem => p.warn t problem
  | .ok (id, deck, request) =>
    let fit := readFit t
    let page := request.resolve ((p.pages.get? id).getD 1) deck.pageCount
    (p.addWarnings fit.2).showPage id page (fit.1.getD deck.fit)

/-! ## 5. Clips -/

/-- Whether the last frame of a video stays. -/
def keepsFrame (s : Scene) (t : Tag) : Bool × List Warning :=
  match t.attr? "keepFrame" with
  | none => (s.keepFrame, [])
  | some value =>
    if value = "true" then (true, [])
    else if value = "false" then (false, [])
    else (s.keepFrame, [⟨t.name, .keepFrameInvalid value⟩])

/-- Adds a video section. -/
def addVideo (s : Scene) (t : Tag) (path : Path) (window : ClipBound × ClipBound)
    (p : Progress ρ) : Progress ρ :=
  let fit := readFit t
  let playback := readPlayback t
  let variant : Variant := ⟨window.1, window.2, some (fit.1.getD .contain)⟩
  let found := internVariant path variant p.plan.videos
  let keep := keepsFrame s t
  let p := p.addWarnings (fit.2 ++ playback.2 ++ keep.2)
  let p := { p with plan := { p.plan with videos := found.2 } }
  let p := if keep.1 then { p with frame := .video found.1 variant.key } else p
  p.addSection (.video found.1 variant.key playback.1)

/-- Adds an audio section. -/
def addAudio (t : Tag) (path : Path) (window : ClipBound × ClipBound) (p : Progress ρ) :
    Progress ρ :=
  let playback := readPlayback t
  let variant : Variant := ⟨window.1, window.2, none⟩
  let found := internVariant path variant p.plan.audios
  let p := p.addWarnings playback.2
  let p := { p with plan := { p.plan with audios := found.2 } }
  p.addSection (.audio found.1 variant.key playback.1 p.frame)

/-- What a video or audio tag does. -/
def clip (s : Scene) (t : Tag) (p : Progress ρ) : Progress ρ :=
  match t.nonEmptyAttr? "src" with
  | none => p.warn t (.clipWithoutSource t.name)
  | some source =>
    let path := (Path.ofString source).resolve s.directory
    if !s.isFile path then p.warn t (.clipMissing t.name source path.toString)
    else
      let window := clipWindow t
      let p := p.addWarnings window.2
      match window.1 with
      | .error (b, e) => p.warn t (.clipEmpty t.name source b.canonical e.canonical)
      | .ok window => if t.name = "video" then p.addVideo s t path window else p.addAudio t path window

end Progress

end LecturePlan

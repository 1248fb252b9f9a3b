import LecturePlan.Compile.Budget
import LecturePlan.Compile.State
import LecturePlan.Config
/-!
# Compiling content

The nodes below the content root are visited in document order.  `visit` says what a node does,
`compile` starts at the root, takes the last section, drops chapters that no section follows, and
measures the sections.  Main definition: `compile`.
-/

namespace LecturePlan

open LecturePlan.Markup

/-- Names of the elements that end the section in progress. -/
def isSplitting (name : String) : Bool :=
  name == "voice" || name == "slide" || name == "video" || name == "image" || name == "audio" ||
    name == "mark"

/-- Names of the elements that are clips, whose children are not looked at. -/
def isClip (name : String) : Bool := name == "video" || name == "audio"

/-- **The four kinds of elements**, as they are told apart by the walk. -/
inductive Markup.Tag.Kind (t : Tag) : Prop where
  | declaration : isDeclaration t.name = true → t.Kind
  | plain : isDeclaration t.name = false → isSplitting t.name = false → t.Kind
  | clip : isDeclaration t.name = false → isSplitting t.name = true → isClip t.name = true → t.Kind
  | scope : isDeclaration t.name = false → isSplitting t.name = true → isClip t.name = false → t.Kind

theorem Markup.Tag.kind (t : Tag) : t.Kind := by
  cases hd : isDeclaration t.name with
  | true => exact .declaration hd
  | false =>
    cases hs : isSplitting t.name with
    | false => exact .plain hd hs
    | true =>
      cases hc : isClip t.name with
      | true => exact .clip hd hs hc
      | false => exact .scope hd hs hc

namespace Progress

variable {ρ : Type} [VoiceRegistry ρ]

/-- What a splitting tag that is no clip does before its children are visited. -/
def enter (s : Scene) (t : Tag) (p : Progress ρ) : Progress ρ :=
  if t.name = "mark" then p.mark s t
  else if t.name = "voice" then p.voiceTag t
  else if t.name = "image" then p.image s t
  else if t.name = "slide" then p.slide s t
  else p

mutual

/-- Visits a node.  After the end mark nothing is visited. -/
def visit (s : Scene) : Node → Progress ρ → Progress ρ
  | .text text, p => if p.ended then p else { p with content := p.content.addText text }
  | .element tag children, p =>
    if p.ended || isDeclaration tag.name then p
    else if !isSplitting tag.name then
      let p := { p with content := p.content.openTag tag }
      let p := visitAll s children p
      { p with content := p.content.close }
    else if isClip tag.name then p.flush.clip s tag
    else
      let outerVoice := p.flush.voice
      let p := p.flush.enter s tag
      let p := if children.isEmpty then p else (visitAll s children p).flush
      { p with voice := outerVoice }

/-- Visits nodes in order. -/
def visitAll (s : Scene) : List Node → Progress ρ → Progress ρ
  | [], p => p
  | n :: ns, p => visitAll s ns (visit s n p)

end

end Progress

/-- The start: nothing is collected, and the first page of the active deck is seen. -/
def Progress.start {ρ : Type} (s : Scene) (c : Config) (root : Tag) (registry : ρ) :
    Progress ρ where
  registry := registry
  nextId := 1
  voice := s.declarations.settings.voice?.getD c.defaultVoice
  frame := .slide s.declarations.activeDeck 1
    (((s.declarations.deck? s.declarations.activeDeck).map Deck.fit).getD .contain)
  slideDeck := s.declarations.activeDeck
  pages := ∅
  content := .start root
  ended := false
  plan := .empty
  notices := []

/-- Drops the chapters that no section follows. -/
def Plan.pruneChapters (p : Plan) : Plan :=
  { p with chapters := p.chapters.filter fun c => p.sections.any fun s => s.id == c.sectionId }

/-- The scene of compiling a script with given declarations. -/
def Scene.of (d : Declarations) (directory : Path) (isFile : Path → Bool) (c : Config) : Scene :=
  ⟨d, directory, isFile, (d.settings.bool? "defaultKeepFrame").getD c.defaultKeepFrame⟩

/-- Visits everything below a content root and ends the last section. -/
def traverse {ρ : Type} [VoiceRegistry ρ] (s : Scene) (c : Config) (root : Element)
    (registry : ρ) : Progress ρ :=
  (Progress.visitAll s root.children (.start s c root.tag registry)).flush

/-- Why there is no plan. -/
inductive CompileError where
  | noSections
  | budgetExceeded (violations : List BudgetViolation)
deriving DecidableEq, Repr

/-- The wording of a compile error. -/
def CompileError.message : CompileError → String
  | .noSections =>
    "there was no valid content to be put into sections, so 0 sections were generated"
  | .budgetExceeded violations =>
    "sections exceed their voice's character budget: " ++
      String.intercalate "; " (violations.map BudgetViolation.message)

/-- Compiles the content below a root into a plan.  The registry comes back as it was left. -/
def compile {ρ : Type} [VoiceRegistry ρ] (s : Scene) (c : Config) (root : Element) (registry : ρ) :
    Except CompileError Plan × ρ :=
  let done := traverse s c root registry
  let plan := done.plan.pruneChapters
  if plan.sections.isEmpty then (.error .noSections, done.registry)
  else
    let measured := measure done.registry plan.sections
    let result := match measured.violations with
      | [] => .ok { plan with warnings := plan.warnings ++ measured.warnings }
      | violations => .error (.budgetExceeded violations)
    (result, measured.registry)

/-- What is told while the content below a root is compiled and measured. -/
def compileNotices {ρ : Type} [VoiceRegistry ρ] (s : Scene) (c : Config) (root : Element)
    (registry : ρ) : List Notice :=
  let done := traverse s c root registry
  done.notices ++ (measure done.registry done.plan.sections).warnings.map .warning

/-- The content of a lecture, as the document that speech sections are cut from. -/
def speakRoot (lecture : Element) : Element := ⟨⟨"speak", []⟩, lecture.children⟩

end LecturePlan

import LecturePlan.CommandLine.Options
import LecturePlan.Plan.Printed
import LecturePlan.Script
/-!
# The program

What a run of the program does with the files it is given: it tells what it meets on the way, and
reports, or saves a plan and reports then.  Main definition: `run`.
-/

namespace LecturePlan.CommandLine

open LecturePlan.Text

/-- What a run leaves behind: an exit code, and lines of output and of errors. -/
structure Report where
  code : Nat
  output : List String
  errors : List String
deriving DecidableEq, Repr

namespace Report

/-- A run that went well and wrote output. -/
def success (output : List String) : Report := ⟨0, output, []⟩

/-- A run that failed. -/
def failure (errors : List String) : Report := ⟨1, [], errors⟩

/-- An item of a list. -/
def item (text : String) : String := "  - " ++ text

/-- What is told about an error.  Of several issues or lengths each takes a line. -/
def ofError : ScriptError → Report
  | .declarations issues =>
    failure ("error: invalid document configuration" ::
      issues.map fun issue => item issue.message)
  | .content (.budgetExceeded violations) =>
    failure ("error: sections are too long for their voices" ::
      violations.map (fun violation => item violation.message) ++
      ["Shorten these sections or split them with <mark name=\"...\"/> tags."])
  | error => failure ["error: " ++ error.message]

end Report

/-- What is done at the end of a run. -/
inductive Action where
  | finish (report : Report)
  /-- Saves a text, and reports if that goes well. -/
  | save (path text : String) (saved : Report)

/-- The report of a run that could not save its text. -/
def Report.notSaved (fault : FileFault) : Report := .ofError (.file fault)

/-! ## 1. Information -/

/-- The line that tells about a deck. -/
def deckLine (active : String) (d : Deck) : String :=
  "Deck " ++ d.id ++ (if d.id = active then " (active)" else "") ++ ": " ++ d.source ++ " (" ++
    Decimal.ofNat d.pageCount ++ " pages, " ++ d.fit.name ++ ")"

/-- The line that tells about a lexicon. -/
def lexiconLine (x : Lexicon) : String :=
  "Lexicon " ++ x.id ++ ": " ++ Decimal.ofNat x.lexemes.length ++ " lexemes"

/-- The lines that tell about a script. -/
def infoLines (script : String) (d : Declarations) : List String :=
  ["File: " ++ script, "Title: " ++ d.title] ++
    ((d.info.entries.filter fun e => e.1 != "title").map fun e => e.1 ++ ": " ++ e.2) ++
    (if d.settings.values.isEmpty then []
      else ["Settings: " ++ String.intercalate ", "
        (d.settings.values.entries.map fun e => e.1 ++ "=" ++ e.2)]) ++
    (d.decks.entries.map fun e => deckLine d.activeDeck e.2) ++
    d.lexicons.map lexiconLine ++
    (d.startMark.toList.map fun name => "Start mark: " ++ name) ++
    (d.endMark.toList.map fun name => "End mark: " ++ name)

/-- Shows the declarations of a script. -/
def showInfo (o : Options) (files : Files) : Report :=
  match readScript files o.script with
  | .error e => .ofError e
  | .ok (d, _) => .success (infoLines o.script d)

/-! ## 2. Plans -/

/-- The configuration that is asked for. -/
def chosenConfig (o : Options) (files : Files) : Except ScriptError Config :=
  match o.config with
  | some path => readConfig files path
  | none => .ok .standard

/-- The line that tells of a saved plan. -/
def savedLine (p : Plan) (path : String) : String :=
  "Wrote " ++ Decimal.ofNat p.sections.length ++ " sections to " ++ path

/-- Compiles a script and prints or saves its plan. -/
def makePlan (o : Options) (files : Files) : Action :=
  match chosenConfig o files with
  | .error e => .finish (.ofError e)
  | .ok c =>
    match compileScript files o.script c (Cached.new c.voiceTable) with
    | .error e => .finish (.ofError e)
    | .ok (d, plan) =>
      let text := (plan.printed d.title).toString
      match o.output with
      | none => .finish (.success [text])
      | some path => .save path text ⟨0, [], if o.quiet then [] else [savedLine plan path]⟩

/-! ## 3. Notices -/

/-- What there is to tell on the way. -/
def notices (o : Options) (files : Files) : List Notice :=
  if o.info then readNotices files o.script
  else match chosenConfig o files with
    | .error _ => []
    | .ok c => compileScriptNotices files o.script c (Cached.new c.voiceTable)

/-- Whether a notice is told: all are to a verbose run, none to a quiet one, else the warnings. -/
def isTold (o : Options) (n : Notice) : Bool := o.verbose || (n.isWarning && !o.quiet)

/-! ## 4. Runs -/

/-- What a run does: the lines that it tells on the way, and what it does at its end. -/
structure Run where
  told : List String
  action : Action

/-- Runs the program. -/
def run (o : Options) (files : Files) : Run where
  told := ((notices o files).filter (isTold o)).flatMap Notice.lines
  action := if o.info then .finish (showInfo o files) else makePlan o files

/-! ## 5. What a run looks at -/

mutual

/-- The sources that a node names. -/
def sourcesOf : Markup.Node → List String
  | .text _ => []
  | .element tag children => (tag.nonEmptyAttr? "src").toList ++ sourcesOfAll children

/-- The sources that nodes name. -/
def sourcesOfAll : List Markup.Node → List String
  | [] => []
  | n :: ns => sourcesOf n ++ sourcesOfAll ns

end

/-- The paths that a script may look for. -/
def mentionedPaths (files : Files) (script : String) : List Path :=
  match readTree files script with
  | .error _ => []
  | .ok lecture => (sourcesOfAll lecture.children).map fun source =>
      (Path.ofString source).resolve (scriptDirectory script)

end LecturePlan.CommandLine

import LecturePlan.Compile.Walk
import LecturePlan.Files
import LecturePlan.Markup.Reader
import LecturePlan.Pdf.PageCount
import LecturePlan.Rewrite.Lecture
import LecturePlan.Text.Encoding
/-!
# Script files

A script file is read, its declarations are extracted, its tree is rewritten and compiled.  Files that
it names are looked for from the directory it is in.  Main definition: `compileScript`.
-/

namespace LecturePlan

open LecturePlan.Markup

/-- Why there is no plan of a script file. -/
inductive ScriptError where
  | file (fault : FileFault)
  | markup (error : ReadError)
  /-- The configuration is none. -/
  | config
  | declarations (issues : List Issue)
  | content (error : CompileError)
deriving DecidableEq

/-- The wording of a script error. -/
def ScriptError.message : ScriptError → String
  | .file fault => "I/O error: " ++ fault.message
  | .markup error => error.message
  | .config => "Invalid configuration"
  | .declarations issues => issuesMessage issues
  | .content error => error.message

/-- Counts the pages of deck files. -/
def Files.decks (files : Files) : DeckFiles where
  isFile p := files.isFile p.toString
  countPages p :=
    match files.read p.toString with
    | .error fault => .error fault.message
    | .ok bytes => (Pdf.countPages bytes).mapError fun fault =>
        p.toString ++ ": " ++ fault.message

/-- The directory that a script's files are looked for from. -/
def scriptDirectory (path : String) : Path := (Path.ofString path).directory

/-- Reads the tree of a script file. -/
def readTree (files : Files) (path : String) : Except ScriptError Element :=
  match files.read path with
  | .error fault => .error (.file fault)
  | .ok bytes => (Element.ofString (Text.decodeText bytes)).mapError .markup

/-- Reads the declarations of a script file, and its tree. -/
def readScript (files : Files) (path : String) : Except ScriptError (Declarations × Element) :=
  match readTree files path with
  | .error e => .error e
  | .ok lecture =>
    match Declarations.extract lecture (scriptDirectory path) files.decks with
    | .error issues => .error (.declarations issues)
    | .ok d => .ok (d, lecture)

/-- The scene of compiling a script file with given declarations. -/
def sceneOf (files : Files) (path : String) (d : Declarations) (c : Config) : Scene :=
  Scene.of d (scriptDirectory path) (fun p => files.isFile p.toString) c

/-- Compiles a script file: its declarations and its plan, in which the warnings of rewriting come
first. -/
def compileScript {ρ : Type} [VoiceRegistry ρ] (files : Files) (path : String) (c : Config)
    (registry : ρ) : Except ScriptError (Declarations × Plan) :=
  match readScript files path with
  | .error e => .error e
  | .ok (d, lecture) =>
    let rewritten := Rewrite.rewriteLecture lecture d c
    match (compile (sceneOf files path d c) c (speakRoot rewritten.1) registry).1 with
    | .error e => .error (.content e)
    | .ok plan => .ok (d, { plan with warnings := rewritten.2 ++ plan.warnings })

/-- What is told while the declarations of a script file are read. -/
def readNotices (files : Files) (path : String) : List Notice :=
  match readTree files path with
  | .error _ => []
  | .ok lecture => Declarations.notices lecture (scriptDirectory path) files.decks

/-- What is told while a script file is compiled. -/
def compileScriptNotices {ρ : Type} [VoiceRegistry ρ] (files : Files) (path : String) (c : Config)
    (registry : ρ) : List Notice :=
  readNotices files path ++
    match readScript files path with
    | .error _ => []
    | .ok (d, lecture) =>
      let rewritten := Rewrite.rewriteLecture lecture d c
      rewritten.2.map .warning ++
        compileNotices (sceneOf files path d c) c (speakRoot rewritten.1) registry

/-- Reads a configuration file. -/
def readConfig (files : Files) (path : String) : Except ScriptError Config :=
  match files.read path with
  | .error fault => .error (.file fault)
  | .ok bytes =>
    match Config.ofJson? (Text.decodeText bytes) with
    | none => .error .config
    | some c => .ok c

end LecturePlan

import LecturePlan.CommandLine.Program
/-!
# The command line program

Takes the arguments, looks at the files that the run will ask for, and carries out what it decides.
-/

namespace LecturePlan.CommandLine

/-- The fault that an error of the system stands for. -/
def faultOf : IO.Error → FileFault
  | .noFileOrDirectory .. => .notFound
  | .permissionDenied .. => .permissionDenied
  | .inappropriateType .. => .isADirectory
  | e => .other e.toString

/-- Reads the bytes of a file. -/
def readBytes (path : String) : IO (Except FileFault (List UInt8)) := do
  try
    let bytes ← IO.FS.readBinFile path
    pure (.ok bytes.toList)
  catch e => pure (.error (faultOf e))

/-- Whether a path leads to a file: its first byte can be asked for. -/
def looksLikeFile (path : String) : IO Bool := do
  try
    let handle ← IO.FS.Handle.mk path .read
    let _ ← handle.read 1
    pure true
  catch e =>
    pure (faultOf e = .permissionDenied)

/-- Looks at the files that a run will ask for. -/
def lookAround (o : Options) : IO Files := do
  let mut contents : List (String × Except FileFault (List UInt8)) := []
  for path in o.script :: o.config.toList do
    contents := (path, ← readBytes path) :: contents
  let known := contents
  let paths := mentionedPaths ⟨fun _ => false, fun p => (known.lookup p).getD (.error .notFound)⟩
    o.script
  let mut present : List String := []
  for path in paths.eraseDups do
    if ← looksLikeFile path.toString then
      present := path.toString :: present
      if path.hasExtension "pdf" then
        contents := (path.toString, ← readBytes path.toString) :: contents
  let (files, bytes) := (present, contents)
  pure ⟨files.contains, fun p => (bytes.lookup p).getD (.error .notFound)⟩

/-- Carries out what a run decides. -/
def carryOut : Action → IO Report
  | .finish report => pure report
  | .save path text saved => do
    try
      IO.FS.writeFile path text
      pure saved
    catch e => pure (.notSaved (faultOf e))

/-- The line that tells how the program is called. -/
def usage : String :=
  "usage: SCRIPT [-o FILE] [-c FILE] [-i] [-v | -q]"

end LecturePlan.CommandLine

open LecturePlan.CommandLine

/-- Runs the program on arguments. -/
def main (arguments : List String) : IO UInt32 := do
  match Options.ofArguments? arguments with
  | none =>
    IO.eprintln usage
    pure 2
  | some o =>
    let run := run o (← lookAround o)
    for line in run.told do IO.eprintln line
    let report ← carryOut run.action
    for line in report.output do IO.println line
    for line in report.errors do IO.eprintln line
    pure report.code.toUInt32

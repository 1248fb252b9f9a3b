/-!
# Options

What a user asks for on the command line: a script, and options in a short or a long form.  Short
options without a value may be written together; a value stands behind its option, with or without
an equals sign or as the next argument.  No option may be given twice.
-/

namespace LecturePlan.CommandLine

/-- What a user asks for. -/
structure Options where
  script : String
  /-- The file that the plan is written to. -/
  output : Option String
  /-- The file that the configuration is read from. -/
  config : Option String
  /-- Whether only the declarations are shown. -/
  info : Bool
  verbose : Bool
  quiet : Bool
deriving DecidableEq, Repr

/-- An option with a value. -/
inductive Slot where
  | output
  | config
deriving DecidableEq, Repr

/-- Options as far as they are read. -/
structure Draft where
  script : Option String
  output : Option String
  config : Option String
  info : Bool
  verbose : Bool
  quiet : Bool

namespace Draft

/-- Nothing is read yet. -/
def empty : Draft := ⟨none, none, none, false, false, false⟩

/-- Sets an option without a value, by its short name; nothing if it is set or unknown. -/
def flag? (d : Draft) (name : Char) : Option Draft :=
  if name = 'i' ∧ !d.info then some { d with info := true }
  else if name = 'v' ∧ !d.verbose then some { d with verbose := true }
  else if name = 'q' ∧ !d.quiet then some { d with quiet := true }
  else none

/-- Sets an option with a value; nothing if it is set. -/
def fill? (d : Draft) (slot : Slot) (value : String) : Option Draft :=
  match slot with
  | .output => if d.output.isNone then some { d with output := some value } else none
  | .config => if d.config.isNone then some { d with config := some value } else none

/-- Takes the script; nothing if there is one, or the name is empty. -/
def takeScript? (d : Draft) (name : String) : Option Draft :=
  if d.script.isNone && name != "" then some { d with script := some name } else none

end Draft

/-- The option with a value of a short name. -/
def Slot.ofShort? (name : Char) : Option Slot :=
  if name = 'o' then some .output else if name = 'c' then some .config else none

/-- The option with a value of a long name. -/
def Slot.ofLong? (name : String) : Option Slot :=
  if name = "output" then some .output else if name = "config" then some .config else none

/-- The short name of an option without a value. -/
def flagOfLong? (name : String) : Option Char :=
  if name = "info" then some 'i'
  else if name = "verbose" then some 'v'
  else if name = "quiet" then some 'q'
  else none

/-- Reads short options written together; the last one may still need its value. -/
def readShort (d : Draft) : List Char → Option (Draft × Option Slot)
  | [] => some (d, none)
  | name :: rest =>
    match Slot.ofShort? name with
    | none => (d.flag? name).bind fun d => readShort d rest
    | some slot =>
      match rest with
      | [] => some (d, some slot)
      | '=' :: value => (d.fill? slot (String.ofList value)).map fun d => (d, none)
      | value => (d.fill? slot (String.ofList value)).map fun d => (d, none)

/-- Reads a long option; it may still need its value. -/
def readLong (d : Draft) (text : List Char) : Option (Draft × Option Slot) :=
  let name := String.ofList (text.takeWhile (· != '='))
  match Slot.ofLong? name, text.dropWhile (· != '=') with
  | some slot, [] => some (d, some slot)
  | some slot, _ :: value => (d.fill? slot (String.ofList value)).map fun d => (d, none)
  | none, [] => (flagOfLong? name).bind fun flag => (d.flag? flag).map fun d => (d, none)
  | none, _ :: _ => none

/-- Whether an argument begins an option. -/
def isOption (argument : String) : Bool :=
  match argument.toList with
  | '-' :: _ :: _ => true
  | _ => false

/-- Reads arguments: `needed` is an option that waits for its value, and behind `--` there are no
options. -/
def readArguments (d : Draft) (needed : Option Slot) (only : Bool) : List String → Option Draft
  | [] => if needed.isNone then some d else none
  | argument :: rest =>
    match needed with
    | some slot =>
      if isOption argument then none
      else (d.fill? slot argument).bind fun d => readArguments d none only rest
    | none =>
      if only then (d.takeScript? argument).bind fun d => readArguments d none only rest
      else match argument.toList with
        | ['-', '-'] => readArguments d none true rest
        | '-' :: '-' :: text =>
          (readLong d text).bind fun p => readArguments p.1 p.2 only rest
        | '-' :: c :: text =>
          (readShort d (c :: text)).bind fun p => readArguments p.1 p.2 only rest
        | _ => (d.takeScript? argument).bind fun d => readArguments d none only rest

/-- Reads the arguments of a command line.  There is one script, no empty value, and not both more
and less to be told. -/
def Options.ofArguments? (arguments : List String) : Option Options := do
  let d ← readArguments .empty none false arguments
  let script ← d.script
  if d.output = some "" ∨ d.config = some "" ∨ (d.verbose && d.quiet) then none
  pure ⟨script, d.output, d.config, d.info, d.verbose, d.quiet⟩

end LecturePlan.CommandLine

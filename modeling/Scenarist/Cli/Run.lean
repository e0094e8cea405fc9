import Scenarist.Cli.Arguments
import Scenarist.Cli.Folder
import Scenarist.Cli.Status
import Scenarist.Draft.Transcript
import Scenarist.Selector.Rendering

/-! # Runs of the program

A run makes an outcome of its arguments and surroundings: what it writes to its outputs and to a
file, and its exit code, which is zero for success, one for failure, and two for arguments without
a meaning.
-/

namespace Scenarist.Cli

/-- What a run finds: its input, the files, and the environment. -/
structure Surroundings where
  stdin : Except PathFault Text
  read : Text → Except PathFault Text
  /-- Why no file can be written at a path. -/
  createFault? : Text → Option PathFault
  /-- Two paths lead to one file. -/
  isSame : Text → Text → Bool
  /-- Messages go to a terminal. -/
  terminal : Bool
  /-- What the environment says about debugging. -/
  debug : Option Text

structure Outcome where
  exit : UInt32
  stdout : Text
  stderr : Text
  /-- A path and what is written there. -/
  written : Option (Text × Text)

/-- Why a run fails. -/
inductive Failure where
  | input (path : Text) (fault : PathFault)
  | output (path : Text) (fault : PathFault)
  | reading (fault : PathFault)
  | check (failed total : Nat)

def Failure.message : Failure → Text
  | .input path fault => "Invalid input: " ++ path ++ ": " ++ fault.message
  | .output path fault => "Cannot write " ++ path ++ ": " ++ fault.message
  | .reading fault => "I/O error: " ++ fault.message
  | .check failed total =>
    "Check failed: " ++ Text.ofNat failed ++ " of " ++ Text.ofNat total ++ " documents invalid"

/-- What a command does. -/
structure Effect where
  stdout : Text := []
  statuses : List Status := []
  written : Option (Text × Text) := none
  failure : Option Failure := none

def failing (failure : Failure) : Effect := { failure := some failure }

/-! ## Generating -/

/-- The effect of a document that goes to the output or to a file. -/
def delivered (output : Option Text) (document : Text) : Effect :=
  match output with
  | none => { stdout := document }
  | some path => { written := some (path, document) }

/-- What is told of a transcript. -/
def transcriptStatuses (output : Option Text) (t : Transcript) : List Status :=
  t.skipped.map (fun fault => .warning ("skipped: " ++ fault.message)) ++
    (if t.unsupportedCount = 0 then []
      else [.warning (Text.ofNat t.unsupportedCount ++
        " recorded action(s) have no step equivalent and were kept as unsupported")]) ++
    (output.map fun path => Status.success (Text.ofNat t.stepCount ++ " steps from " ++
      Text.ofNat t.entries ++ " actions written to " ++ path)).toList

/-- The recording. A file that is also the output is empty by the time it is read. -/
def recordingOf (s : Surroundings) (o : Generate) : Except PathFault Text :=
  match o.input with
  | none => s.stdin
  | some path => (s.read path).map fun t => if o.output.any (s.isSame path) then [] else t

/-- The input is opened before the output is, and read after that. -/
def generate (s : Surroundings) (o : Generate) : Effect :=
  let recording := recordingOf s o
  let opening : Option Failure := match o.input, recording with
    | some path, .error fault => if fault = .isFolder then none else some (.input path fault)
    | _, _ => none
  let creating : Option Failure :=
    o.output.bind fun path => (s.createFault? path).map (.output path)
  match opening.or creating, recording with
  | some failure, _ => failing failure
  | none, .error fault => { delivered o.output [] with failure := some (.reading fault) }
  | none, .ok text =>
    let t := Transcript.ofRecording ⟨o.base, o.name⟩ o.debug text
    { delivered o.output t.document with statuses := transcriptStatuses o.output t }

/-! ## Describing -/

def describe (settings : Settings) (o : Describe) : Effect :=
  let selector := Selector.ofRecorded (some o.selector)
  let shown := if o.debug then Selector.report o.selector else selector.toJson
  { stdout := match o.layout with
      | .yaml => strippedYaml shown
      | .json => strippedJson shown
    statuses := (Selector.warningsOf (some o.selector)).map (fun w => .warning w.message) ++
      if settings.verbosity.isVerbose then [.info selector.summary] else [] }

/-! ## Checking -/

/-- What is told of a file. -/
def checkFile (s : Surroundings) (path : Text) : Status :=
  match s.read path with
  | .error fault => .failure (path ++ ": " ++ (Failure.reading fault).message)
  | .ok text =>
    match Scenario.ofYaml text with
    | .error fault => .failure (path ++ ": Escriba error: Scenario error: " ++ fault.message)
    | .ok scenario =>
      .success (path ++ ": \"" ++ scenario.name ++ "\" (" ++ Text.ofNat scenario.steps.length ++
        " steps)")

def check (s : Surroundings) (files : List Text) : Effect :=
  let statuses := files.map (checkFile s)
  let failed := statuses.countP Status.isFailure
  { statuses, failure := if failed = 0 then none else some (.check failed files.length) }

/-! ## Running -/

def effectOf (s : Surroundings) (i : Invocation) : Effect :=
  match i.command with
  | .generate o => generate s o
  | .selector o => describe i.settings o
  | .check files => check s files

/-- The outcome of an effect. -/
def conclude (s : Surroundings) (settings : Settings) (e : Effect) : Outcome where
  exit := if e.failure.isSome then 1 else 0
  stdout := e.stdout
  stderr := Status.lines settings s.terminal e.statuses ++
    (e.failure.map fun f => "Error: " ++ f.message ++ ['\n']).getD []
  written := e.written

def programName : Text := "escribano"

def programVersion : Text := "0.3.0"

/-- How the program is used. -/
def usageLine : Text :=
  "Usage: " ++ programName ++ " [OPTIONS] <generate|selector|check> [ARGUMENTS]\n"

/-- The outcome of arguments that ask for no command. -/
def halted : Halt → Outcome
  | .usage => ⟨2, [], usageLine, none⟩
  | .help => ⟨0, usageLine, [], none⟩
  | .version command =>
    ⟨0, programName ++ (command.map ('-' :: ·)).getD [] ++ ' ' :: programVersion ++ ['\n'], [],
      none⟩

def run (s : Surroundings) (arguments : List Text) : Outcome :=
  match readArguments s.debug arguments with
  | .error halt => halted halt
  | .ok i => conclude s i.settings (effectOf s i)

/-- What a run finds in a folder. -/
def Surroundings.ofFolder (folder : Folder) (stdin : Text) (debug : Option Text) :
    Surroundings where
  stdin := .ok stdin
  read := folder.read
  createFault? := folder.createFault?
  isSame := fun a b => Folder.names a == Folder.names b
  terminal := false
  debug := debug

end Scenarist.Cli

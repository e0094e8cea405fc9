import Scenarist.Cli.Run

/-! # The program

The files, the input and the environment make the surroundings of a run, and its outcome is written
out. All that is decided is decided by the run.
-/

namespace Scenarist.Cli

/-- The variable of the environment that says whether to debug. -/
def debugVariable : String := "ESCRIBA_DEBUG"

def faultOfError : IO.Error → PathFault
  | .noFileOrDirectory .. => .notFound
  | .inappropriateType _ 20 _ => .notFolder
  | .inappropriateType _ 21 _ => .isFolder
  | .permissionDenied .. => .other "Permission denied (os error 13)"
  | error => .other (toString error)

def attempt {α : Type} (action : IO α) : IO (Except PathFault α) := do
  try return .ok (← action) catch error => return .error (faultOfError error)

/-- The text that bytes stand for. -/
def decoded (bytes : ByteArray) : Except PathFault Text :=
  match String.fromUTF8? bytes with
  | some s => .ok s
  | none => .error (.other "stream did not contain valid UTF-8")

def openedForReading (path : Text) : IO (Except PathFault IO.FS.Handle) :=
  attempt (IO.FS.Handle.mk path.toStr .read)

def readToEnd (handle : IO.FS.Handle) : IO (Except PathFault Text) := do
  return (← attempt handle.readBinToEnd).bind decoded

def readInput : IO (Except PathFault Text) := do
  return (← attempt (do (← IO.getStdin).readBinToEnd)).bind decoded

/-- Makes the file empty. -/
def creationFault? (path : Text) : IO (Option PathFault) := do
  match ← attempt (IO.FS.Handle.mk path.toStr .write) with
  | .ok _ => return none
  | .error fault => return some fault

/-- What a run finds when nothing was looked for. -/
def blankSurroundings (terminal : Bool) (debug : Option Text) : Surroundings where
  stdin := .ok []
  read := fun _ => .error .notFound
  createFault? := fun _ => none
  isSame := fun _ _ => false
  terminal := terminal
  debug := debug

/-- The input is opened before the output is, and read after that. A file that is both is empty by
then. -/
def surroundGenerate (s : Surroundings) (o : Generate) : IO Surroundings := do
  let opened ← match o.input with
    | none => pure none
    | some path => some <$> openedForReading path
  if let some (.error fault) := opened then return { s with read := fun _ => .error fault }
  let fault ← match o.output with
    | none => pure none
    | some path => creationFault? path
  if fault.isSome then return { s with read := fun _ => .ok [], createFault? := fun _ => fault }
  match opened with
  | some (.ok handle) =>
    let text ← readToEnd handle
    return { s with read := fun _ => text }
  | _ => return { s with stdin := ← readInput }

def surroundCheck (s : Surroundings) (files : List Text) : IO Surroundings := do
  let found ← files.mapM fun path => do
    match ← openedForReading path with
    | .ok handle => return (path, ← readToEnd handle)
    | .error fault => return (path, .error fault)
  return { s with read := fun path => (found.lookup path).getD (.error .notFound) }

def surround (s : Surroundings) : Command → IO Surroundings
  | .generate o => surroundGenerate s o
  | .selector _ => pure s
  | .check files => surroundCheck s files

def deliver (outcome : Outcome) : IO UInt32 := do
  if let some (path, content) := outcome.written then IO.FS.writeFile path.toStr content.toStr
  IO.print outcome.stdout.toStr
  IO.eprint outcome.stderr.toStr
  return outcome.exit

end Scenarist.Cli

open Scenarist Cli in
def main (arguments : List String) : IO UInt32 := do
  let arguments : List Text := arguments.map String.toList
  let debug := (← IO.getEnv debugVariable).map String.toList
  let s := blankSurroundings (← (← IO.getStderr).isTty) debug
  match readArguments debug arguments with
  | .error halt => deliver (halted halt)
  | .ok invocation => deliver (run (← surround s invocation.command) arguments)

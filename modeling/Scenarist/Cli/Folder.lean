import Scenarist.Text.Basic

/-! # Folders

Files by their paths below a folder. A folder below it is there when a file is in it.
-/

namespace Scenarist.Cli

/-- Why a path cannot be used. -/
inductive PathFault where
  | notFound
  | notFolder
  | isFolder
  | other (message : Text)
deriving DecidableEq

def PathFault.message : PathFault → Text
  | .notFound => "No such file or directory (os error 2)"
  | .notFolder => "Not a directory (os error 20)"
  | .isFolder => "Is a directory (os error 21)"
  | .other message => message

structure Folder where
  files : List (Text × Text)

namespace Folder

/-- The names on a path, without those that stay where they are. -/
def names (path : Text) : List Text := (Text.splitAll '/' path).filter fun n => n ≠ [] ∧ n ≠ ['.']

/-- The names on a path written as a path below the folder. -/
def key (path : Text) : Text := Text.join ['/'] (names path)

/-- The path ends at a slash. -/
def endsAtSlash (path : Text) : Bool := path.getLast? == some '/'

/-- The last name on the path is that of the folder it leads to. -/
def endsAtSelf (path : Text) : Bool :=
  ((Text.splitAll '/' path).filter (· ≠ [])).getLast? == some ['.']

/-- The path can only lead to a folder. -/
def meansFolder (path : Text) : Bool := endsAtSlash path || endsAtSelf path

def file? (f : Folder) (path : List Text) : Option Text :=
  (f.files.find? fun (p, _) => names p == path).map (·.2)

def isFolder (f : Folder) (path : List Text) : Bool :=
  path.isEmpty || f.files.any fun (p, _) => path.isPrefixOf (names p) && path != names p

/-- Some way along the path there is a file. -/
def crossesFile (f : Folder) (path : List Text) : Bool :=
  f.files.any fun (p, _) => (names p).isPrefixOf path

/-- Why nothing is found at a path that is neither a file nor a folder. -/
def missing (f : Folder) (path : List Text) : PathFault :=
  if f.crossesFile path then .notFolder else .notFound

/-- Why a path from the root cannot be used. Only the root itself is known there. -/
def outside? (path : Text) : Option PathFault :=
  if path.head? ≠ some '/' then none
  else if names path = [] then some .isFolder
  else some .notFound

def read (f : Folder) (path : Text) : Except PathFault Text :=
  let ns := names path
  match outside? path with
  | some fault => .error fault
  | none =>
    match f.file? ns with
    | some t => if meansFolder path then .error .notFolder else .ok t
    | none => .error (if f.isFolder ns then .isFolder else f.missing ns)

/-- Why no file can be written at a path. -/
def createFault? (f : Folder) (path : Text) : Option PathFault :=
  let ns := names path
  if (outside? path).isSome then outside? path
  else if f.isFolder ns then some .isFolder
  else if endsAtSelf path then some (f.missing ns)
  else if !f.isFolder ns.dropLast then some (f.missing ns.dropLast)
  else if endsAtSlash path then some .isFolder
  else none

/-- The folder with a file written. -/
def write (f : Folder) (path content : Text) : Folder :=
  ⟨f.files.filter (fun (p, _) => names p ≠ names path) ++ [(key path, content)]⟩

end Folder

end Scenarist.Cli

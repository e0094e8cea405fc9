import Scenarist.Json.Typed
import Scenarist.Recording.Entry
import Scenarist.Text.Basic

/-! # Lines of a recording

A recording has one entry a line, in JSON. Blank lines do not count.
-/

namespace Scenarist

open Json

namespace FramePlace

/-- What was read of a frame. -/
structure Partial where
  page : Option Text
  path : Option (List Text)

def readPage (p : Partial) : Reader Partial := fun t => do
  let (page, rest) ← text t
  return ({ p with page := some page }, rest)

def readPath (p : Partial) : Reader Partial := fun t => do
  let (path, rest) ← listOf text t
  return ({ p with path := some path }, rest)

def member (p : Partial) (name : Text) : Member Partial :=
  if name = "pageAlias" then if p.page.isSome then .again else .read (readPage p)
  else if name = "framePath" then if p.path.isSome then .again else .read (readPath p)
  else .skip

def form : Form Partial := ⟨"FrameDescription", ⟨none, none⟩, member, [readPage, readPath]⟩

def read : Reader FramePlace :=
  recordOf form fun _ p => .ok ⟨p.page.getD firstPage, p.path.getD []⟩

end FramePlace

namespace Entry

/-- What was read of an entry. -/
structure Partial where
  frame : Option FramePlace
  action : Option RecordedAction

def readFrame (p : Partial) : Reader Partial := fun t => do
  let (frame, rest) ← FramePlace.read t
  return ({ p with frame := some frame }, rest)

/-- The entry itself is one of the brackets that may be open. -/
def readAction (p : Partial) : Reader Partial := fun t => do
  let (payload, rest) ← value (depthLimit - 1) t
  return ({ p with action := some (.ofJson payload) }, rest)

def member (p : Partial) (name : Text) : Member Partial :=
  if name = "frame" then if p.frame.isSome then .again else .read (readFrame p)
  else if name = "action" then if p.action.isSome then .again else .read (readAction p)
  else .skip

def form : Form Partial := ⟨"ActionInContext", ⟨none, none⟩, member, [readFrame, readAction]⟩

def finish (listed : Bool) (p : Partial) : Except Cause Entry :=
  match p.action with
  | some action => .ok ⟨p.frame.getD .main, action⟩
  | none =>
    .error (if listed then .wrongLength 1 "struct ActionInContext with 2 elements"
      else .missingField "action")

/-- The entry that a line writes. -/
def ofLine (line : Text) : Except Json.Fault Entry := whole (recordOf form finish) line

end Entry

namespace Recording

/-- A line that is no entry. -/
structure Fault where
  line : Nat
  text : Text
  fault : Json.Fault

def Fault.message (f : Fault) : Text :=
  "Invalid recorded action at line " ++ Text.ofNat f.line ++ ": " ++ f.fault.message f.text

def isBlankLine (line : Text) : Bool := (Text.trim line).isEmpty

/-- The lines that are not blank, with their numbers from `first` on. -/
def numbered (first : Nat) : List Text → List (Nat × Text)
  | [] => []
  | line :: r =>
    if isBlankLine line then numbered (first + 1) r else (first, line) :: numbered (first + 1) r

/-- The entry of a line, or why it is none. -/
def readLine (index : Nat) (line : Text) : Except Fault Entry :=
  match Entry.ofLine line with
  | .ok e => .ok e
  | .error fault => .error ⟨index, line, fault⟩

/-- What the lines of a text hold, one by one. -/
def readLines (t : Text) : List (Except Fault Entry) :=
  (numbered 1 (Text.lines t)).map fun (index, line) => readLine index line

/-- All entries of a text, or the first line that is none. -/
def read (t : Text) : Except Fault (List Entry) := (readLines t).mapM id

end Recording

end Scenarist

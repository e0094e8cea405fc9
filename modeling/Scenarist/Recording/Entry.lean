import Scenarist.Recording.Action

/-! # Entries of a recording

An entry is an action and the frame in which it was done. An action that cannot be read is kept as
it was recorded.
-/

namespace Scenarist

inductive RecordedAction where
  | known (action : Action)
  | unsupported (name : Text) (payload : Json)
deriving DecidableEq

namespace RecordedAction

/-- The name that stands in a payload. -/
def nameOf (payload : Json) : Text := ((payload.get? "name").bind Json.text?).getD "unknown"

def ofJson (payload : Json) : RecordedAction :=
  match Action.ofNode? (.ofJson payload) with
  | some action => .known action
  | none => .unsupported (nameOf payload) payload

def name : RecordedAction → Text
  | .known action => action.name
  | .unsupported name _ => name

def toJson : RecordedAction → Json
  | .known action => action.toJson
  | .unsupported _ payload => payload

end RecordedAction

/-- A page by its name, and the recorded selectors of the frames to enter on it. -/
structure FramePlace where
  page : Text
  path : List Text
deriving DecidableEq

namespace FramePlace

/-- The page on which a recording begins. -/
def firstPage : Text := "page"

/-- The first page, outside all frames. -/
def main : FramePlace := ⟨firstPage, []⟩

def toJson (f : FramePlace) : Json :=
  .object [("pageAlias", .string f.page), ("framePath", .array (f.path.map .string))]

open Yaml in
def ofNode? (n : Node) : Option FramePlace := do
  let r ← n.record? ["pageAlias", "framePath"]
  return ⟨← r.defaulted? "pageAlias" firstPage Node.text?,
    ← r.defaulted? "framePath" [] (Node.list? Node.text?)⟩

end FramePlace

structure Entry where
  frame : FramePlace
  action : RecordedAction
deriving DecidableEq

namespace Entry

/-- An action on the first page. -/
def onMainPage (action : Action) : Entry := ⟨.main, .known action⟩

def toJson (e : Entry) : Json :=
  .object [("frame", e.frame.toJson), ("action", e.action.toJson)]

open Yaml in
def ofNode? (n : Node) : Option Entry := do
  let r ← n.record? ["frame", "action"]
  return ⟨← r.defaulted? "frame" .main FramePlace.ofNode?,
    .ofJson (← r.required? "action" Node.json?)⟩

end Entry

end Scenarist

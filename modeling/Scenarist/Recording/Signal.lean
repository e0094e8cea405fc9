import Scenarist.Yaml.Record

/-! # Signals

What was seen while an action ran. The field `name` says which signal it is; a name that is not
known here makes a signal without content.
-/

namespace Scenarist

inductive Signal where
  | navigation (url : Option Text)
  | popup (pageAlias : Option Text)
  | download
  | dialog (dialogAlias kind message : Option Text) (accepted : Option Bool)
  | unknown
deriving DecidableEq

namespace Signal

def toJson : Signal → Json
  | .navigation url => .object [("name", .string "navigation"), ("url", .orNull .string url)]
  | .popup page => .object [("name", .string "popup"), ("popupAlias", .orNull .string page)]
  | .download => .object [("name", .string "download")]
  | .dialog dialogAlias kind message accepted =>
    .object [("name", .string "dialog"), ("dialogAlias", .orNull .string dialogAlias),
      ("type", .orNull .string kind), ("message", .orNull .string message),
      ("accepted", .orNull .bool accepted)]
  | .unknown => .object [("name", .string "unknown")]

open Yaml in
def ofNode? (n : Node) : Option Signal := do
  let (name, rest) ← n.tagged? "name"
  if name = "navigation" then
    let r ← rest.record? ["url".toList]
    return .navigation (← r.optional? "url" true Node.text?)
  else if name = "popup" then
    let r ← rest.record? ["popupAlias".toList]
    return .popup (← r.optional? "popupAlias" true Node.text?)
  else if name = "download" then (rest.record? []).map fun _ => .download
  else if name = "dialog" then
    let r ← rest.record? ["dialogAlias", "type", "message", "accepted"]
    return .dialog (← r.optional? "dialogAlias" true Node.text?)
      (← r.optional? "type" true Node.text?) (← r.optional? "message" true Node.text?)
      (← r.optional? "accepted" true Node.bool?)
  else rest.nothing?.map fun _ => .unknown

open Yaml in
/-- The signals of a list. An entry that is no signal is an unknown one, and null is no list but
stands for none. -/
def listOfNode? (n : Node) : Option (List Signal) := do
  if ← n.isAbsent? then return []
  else return (← n.items?).map fun item => (ofNode? item).getD .unknown

end Signal

end Scenarist

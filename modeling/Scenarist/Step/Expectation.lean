import Scenarist.Yaml.Record

/-! # Expectations

What a step is expected to bring about besides its own effect. The field `type` of a document says
which of them is meant; all other fields may be missing.
-/

namespace Scenarist

inductive Expectation where
  /-- The page goes to an address, or to one with a part. -/
  | navigation (url urlContains : Option Text)
  /-- Another page opens, under a name. -/
  | popup (pageAlias : Option Text)
  | download
  | dialog (kind message : Option Text) (accepted : Option Bool)
deriving DecidableEq

namespace Expectation

def toJson : Expectation → Json
  | .navigation url part =>
    .object [("type", .string "navigation"), ("url", Json.orNull .string url),
      ("urlContains", Json.orNull .string part)]
  | .popup page => .object [("type", .string "popup"), ("pageAlias", Json.orNull .string page)]
  | .download => .object [("type", .string "download")]
  | .dialog kind message accepted =>
    .object [("type", .string "dialog"), ("kind", Json.orNull .string kind),
      ("message", Json.orNull .string message), ("accepted", Json.orNull .bool accepted)]

open Yaml in
def ofNode? (n : Node) : Option Expectation := do
  let (type, rest) ← n.tagged? "type"
  if type = "navigation" then
    let r ← rest.record? ["url", "urlContains"]
    return .navigation (← r.optional? "url" true Node.text?)
      (← r.optional? "urlContains" true Node.text?)
  else if type = "popup" then
    let r ← rest.record? ["pageAlias".toList]
    return .popup (← r.optional? "pageAlias" true Node.text?)
  else if type = "download" then rest.nothing?.map fun _ => .download
  else if type = "dialog" then
    let r ← rest.record? ["kind", "message", "accepted"]
    return .dialog (← r.optional? "kind" true Node.text?)
      (← r.optional? "message" true Node.text?) (← r.optional? "accepted" true Node.bool?)
  else none

end Expectation

end Scenarist

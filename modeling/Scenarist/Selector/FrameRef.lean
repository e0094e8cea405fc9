import Scenarist.Attribute.Reader
import Scenarist.Chain.Reader
import Scenarist.Yaml.Record

/-! # Frames

A frame on the way from the page to an element: by its name, by its address or a part of it, by its
place among its siblings, or by the selector that was recorded.
-/

namespace Scenarist

inductive FrameRef where
  | name (name : Text) (kind : Option Text)
  | url (url : Text) (kind : Option Text)
  | urlContains (part : Text) (kind : Option Text)
  | index (index : UInt32) (kind : Option Text)
  | selector (raw : Text)
deriving DecidableEq

namespace FrameRef

/-- The form of a frame's selector that has a structure: an element with one attribute, or with
none and a place. -/
def recognize? (raw : Text) : Option FrameRef := do
  let chain ← (Chain.read raw).toOption
  let (base, nth) ← match chain.parts with
    | [base] => some (base, none)
    | [base, last] =>
      if last.engine = "nth" then some (base, some (Text.trim last.source)) else none
    | _ => none
  if base.name ≠ "css" then none
  else
    let body ← (AttributeBody.read true base.source).toOption
    let kind := if body.name = [] then none else some body.name
    match nth, body.attributes with
    | some nth, [] =>
      let n ← Text.toUnsigned? 10 nth
      if n < 0x100000000 then return .index (UInt32.ofNat n) kind else none
    | none, [a] =>
      let .text value := a.value | none
      if a.name = "name" ∧ a.op = .equals then return .name value kind
      else if a.name = "src" ∧ a.op = .equals then return .url value kind
      else if a.name = "src" ∧ a.op = .contains then return .urlContains value kind
      else none
    | _, _ => none

/-- The frame of a recorded selector, which is kept as it is when it has no such form. -/
def ofRaw (raw : Text) : FrameRef := (recognize? raw).getD (.selector raw)

/-! ## Documents -/

def toJson : FrameRef → Json
  | .name t kind => withKind "name" (.string t) kind
  | .url t kind => withKind "url" (.string t) kind
  | .urlContains t kind => withKind "urlContains" (.string t) kind
  | .index n kind => withKind "index" (.number (.ofUInt32 n)) kind
  | .selector raw => .object [("selector", .string raw)]
where
  withKind (field : Text) (v : Json) (kind : Option Text) : Json :=
    .object [(field, v), ("kind", Json.orNull .string kind)]

open Yaml in
/-- The first form whose fields are there. -/
def ofNode? (n : Node) : Option FrameRef := do
  let n := Node.value (← n.content?)
  let withKind? {α : Type} (field : Text) (f : Node → Option α)
      (form : α → Option Text → FrameRef) :
      Option FrameRef := do
    let r ← n.mapped? [field, "kind"]
    return form (← r.required? field f) (← r.optional? "kind" false Node.text?)
  [withKind? "name" Node.text? .name,
    withKind? "url" Node.text? .url,
    withKind? "urlContains" Node.text? .urlContains,
    withKind? "index" Node.uint32? .index,
    ((n.mapped? ["selector".toList]).bind fun r =>
    r.required? "selector" Node.text?).map .selector].firstM id

end FrameRef

end Scenarist

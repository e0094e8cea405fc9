import Scenarist.Selector.AriaState
import Scenarist.Selector.TextMatcher

/-! # Elements

What a selector is about: an element by its role, by an attribute, by its text, or by a query in
another language. In a document the field that is there says which kind it is.
-/

namespace Scenarist

structure RoleElement where
  role : Text
  name : Option TextMatcher
  checked : Option AriaState
  pressed : Option AriaState
  selected : Option AriaState
  expanded : Option AriaState
  disabled : Option AriaState
  includeHidden : Option Bool
  level : Option UInt32
deriving DecidableEq

inductive Element where
  | role (query : RoleElement)
  | testId (id : Text)
  | css (query : Text)
  | xpath (query : Text)
  | text (matcher : TextMatcher)
  | label (matcher : TextMatcher)
  | placeholder (matcher : TextMatcher)
  | alt (matcher : TextMatcher)
  | title (matcher : TextMatcher)
deriving DecidableEq

namespace RoleElement

/-- A role without further conditions. -/
def ofRole (role : Text) : RoleElement :=
  ⟨role, none, none, none, none, none, none, none, none⟩

def fieldNames : List Text :=
  ["role", "name", "checked", "pressed", "selected", "expanded", "disabled", "includeHidden",
    "level"].map String.toList

def toJson (r : RoleElement) : Json :=
  .object [("role", .string r.role), ("name", Json.orNull TextMatcher.toJson r.name),
    ("checked", Json.orNull AriaState.toJson r.checked),
    ("pressed", Json.orNull AriaState.toJson r.pressed),
    ("selected", Json.orNull AriaState.toJson r.selected),
    ("expanded", Json.orNull AriaState.toJson r.expanded),
    ("disabled", Json.orNull AriaState.toJson r.disabled),
    ("includeHidden", Json.orNull .bool r.includeHidden),
    ("level", Json.orNull (fun n => .number (.ofUInt32 n)) r.level)]

open Yaml in
def ofNode? (n : Node) : Option RoleElement := do
  let r ← n.record? fieldNames
  return {
    role := ← r.required? "role" Node.text?
    name := ← r.optional? "name" false TextMatcher.ofNode?
    checked := ← r.optional? "checked" false AriaState.ofNode?
    pressed := ← r.optional? "pressed" false AriaState.ofNode?
    selected := ← r.optional? "selected" false AriaState.ofNode?
    expanded := ← r.optional? "expanded" false AriaState.ofNode?
    disabled := ← r.optional? "disabled" false AriaState.ofNode?
    includeHidden := ← r.optional? "includeHidden" false Node.bool?
    level := ← r.optional? "level" false Node.uint32? }

end RoleElement

namespace Element

def kind : Element → Text
  | .role _ => "role"
  | .testId _ => "testId"
  | .css _ => "css"
  | .xpath _ => "xpath"
  | .text _ => "text"
  | .label _ => "label"
  | .placeholder _ => "placeholder"
  | .alt _ => "alt"
  | .title _ => "title"

/-- The text by which a reader tells the element from others. -/
def discriminatingText? : Element → Option Text
  | .role r => r.name.map TextMatcher.value
  | .testId t => some t
  | .css t => some t
  | .xpath t => some t
  | .text m => some m.value
  | .label m => some m.value
  | .placeholder m => some m.value
  | .alt _ => none
  | .title _ => none

def toJson (e : Element) : Json :=
  match e with
  | .role r => r.toJson
  | .testId t => .object [(e.kind, .string t)]
  | .css t => .object [(e.kind, .string t)]
  | .xpath t => .object [(e.kind, .string t)]
  | .text m => .object [(e.kind, m.toJson)]
  | .label m => .object [(e.kind, m.toJson)]
  | .placeholder m => .object [(e.kind, m.toJson)]
  | .alt m => .object [(e.kind, m.toJson)]
  | .title m => .object [(e.kind, m.toJson)]

open Yaml in
/-- The first kind whose fields are there. -/
def ofNode? (n : Node) : Option Element := do
  let n := Node.value (← n.content?)
  let field? {α : Type} (name : Text) (f : Node → Option α) : Option α := do
    (← n.mapped? [name]).required? name f
  [(RoleElement.ofNode? n).map .role,
    (field? "testId" Node.text?).map .testId,
    (field? "css" Node.text?).map .css,
    (field? "xpath" Node.text?).map .xpath,
    (field? "text" TextMatcher.ofNode?).map .text,
    (field? "label" TextMatcher.ofNode?).map .label,
    (field? "placeholder" TextMatcher.ofNode?).map .placeholder,
    (field? "alt" TextMatcher.ofNode?).map .alt,
    (field? "title" TextMatcher.ofNode?).map .title].firstM id

end Element

end Scenarist

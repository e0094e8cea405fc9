import Scenarist.Selector.Document
import Scenarist.Step.Expectation
import Scenarist.Step.Kind
import Scenarist.Step.Modifier

/-! # Steps

A step is one thing that a scenario does or checks. Which of its fields count depends on its kind.
-/

namespace Scenarist

structure Step where
  action : StepKind
  url : Option Text := none
  selector : Option Selector := none
  text : Option Text := none
  key : Option Text := none
  value : Option Text := none
  checked : Option Bool := none
  visible : Option Bool := none
  substring : Option Bool := none
  options : Option (List Text) := none
  button : Option MouseButton := none
  modifiers : Option (List Modifier) := none
  clickCount : Option UInt32 := none
  expectations : Option (List Expectation) := none
  /-- What was recorded and what was noticed on the way to the step. -/
  debug : Option Json := none
deriving DecidableEq

namespace Step

/-- The first field that the kind of the step requires and that is not set. -/
def missingField? (s : Step) : Option Text :=
  if s.action.targetsElement && s.selector.isNone then some "selector"
  else match s.action with
    | .navigate => if s.url.isNone then some "url" else none
    | .fill | .assertText => if s.text.isNone then some "text" else none
    | .press => if s.key.isNone then some "key" else none
    | .assertValue => if s.value.isNone then some "value" else none
    | _ => none

/-! ## Documents -/

/-- An option of a list to choose from. -/
def optionJson (value : Text) : Json := .object [("value", .string value)]

def listJson {α : Type} (f : α → Json) (l : List α) : Json := .array (l.map f)

def toJson (s : Step) : Json :=
  .object [("action", s.action.toJson), ("url", .orNull .string s.url),
    ("selector", .orNull Selector.toJson s.selector), ("text", .orNull .string s.text),
    ("key", .orNull .string s.key), ("value", .orNull .string s.value),
    ("checked", .orNull .bool s.checked), ("visible", .orNull .bool s.visible),
    ("substring", .orNull .bool s.substring), ("options", .orNull (listJson optionJson) s.options),
    ("button", .orNull MouseButton.toJson s.button),
    ("modifiers", .orNull (listJson Modifier.toJson) s.modifiers),
    ("clickCount", .orNull (fun n => .number (.ofUInt32 n)) s.clickCount),
    ("expectations", .orNull (listJson Expectation.toJson) s.expectations),
    ("debug", .orNull id s.debug)]

def fieldNames : List Text :=
  ["action", "url", "selector", "text", "key", "value", "checked", "visible", "substring",
    "options", "button", "modifiers", "clickCount", "expectations", "debug"].map String.toList

open Yaml

def optionOfNode? (n : Node) : Option Text := do
  (← n.record? ["value".toList]).required? "value" Node.text?

def ofNode? (n : Node) : Option Step := do
  let r ← n.record? fieldNames
  let field? {α : Type} (name : Text) (f : Node → Option α) : Option (Option α) :=
    r.optional? name true f
  return {
    action := ← r.required? "action" StepKind.ofNode?
    url := ← field? "url" Node.text?
    selector := ← field? "selector" Selector.ofNode?
    text := ← field? "text" Node.text?
    key := ← field? "key" Node.text?
    value := ← field? "value" Node.text?
    checked := ← field? "checked" Node.bool?
    visible := ← field? "visible" Node.bool?
    substring := ← field? "substring" Node.bool?
    options := ← field? "options" (Node.list? optionOfNode?)
    button := ← field? "button" MouseButton.ofNode?
    modifiers := ← field? "modifiers" (Node.list? Modifier.ofNode?)
    clickCount := ← field? "clickCount" Node.uint32?
    expectations := ← field? "expectations" (Node.list? Expectation.ofNode?)
    debug := ← field? "debug" Node.json? }

end Step

end Scenarist

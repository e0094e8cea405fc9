import Scenarist.Recording.Signal
import Scenarist.Step.Modifier

/-! # Recorded actions

What a user did: with the page, or with an element that a recorded selector names. An action comes
with the signals that were seen while it ran. The field `name` says which action it is.
-/

namespace Scenarist

/-- What was done to an element, or is asserted of it. -/
inductive Gesture where
  | click (button : MouseButton) (modifiers clickCount : UInt32)
  | fill (text : Text)
  | press (key : Text) (modifiers : UInt32)
  | check
  | uncheck
  | select (options : List Text)
  | assertText (text : Text) (substring : Bool)
  | assertValue (value : Text)
  | assertChecked (checked : Bool)
  | assertVisible (visible : Option Bool)
deriving DecidableEq

inductive Deed where
  | navigate (url : Text)
  | openPage (url : Text)
  | closePage
  | onElement (selector : Option Text) (gesture : Gesture)
deriving DecidableEq

structure Action where
  deed : Deed
  signals : List Signal
deriving DecidableEq

/-! ## Gestures -/

namespace Gesture

def name : Gesture → Text
  | .click _ _ _ => "click"
  | .fill _ => "fill"
  | .press _ _ => "press"
  | .check => "check"
  | .uncheck => "uncheck"
  | .select _ => "select"
  | .assertText _ _ => "assertText"
  | .assertValue _ => "assertValue"
  | .assertChecked _ => "assertChecked"
  | .assertVisible _ => "assertVisible"

/-- The fields of a gesture. -/
def members : Gesture → List (Text × Json)
  | .click button modifiers clickCount =>
    [("button", button.toJson), ("modifiers", .number (.ofUInt32 modifiers)),
      ("clickCount", .number (.ofUInt32 clickCount))]
  | .fill text => [("text", .string text)]
  | .press key modifiers => [("key", .string key), ("modifiers", .number (.ofUInt32 modifiers))]
  | .check | .uncheck => []
  | .select options => [("options", .array (options.map .string))]
  | .assertText text substring => [("text", .string text), ("substring", .bool substring)]
  | .assertValue value => [("value", .string value)]
  | .assertChecked checked => [("checked", .bool checked)]
  | .assertVisible visible => [("visible", .orNull .bool visible)]

/-- The names of the fields of the gesture with this name. -/
def fieldNames? (name : Text) : Option (List Text) :=
  if name = "click" then some ["button", "modifiers", "clickCount"]
  else if name = "fill" then some ["text".toList]
  else if name = "press" then some ["key", "modifiers"]
  else if name = "check" ∨ name = "uncheck" then some []
  else if name = "select" then some ["options".toList]
  else if name = "assertText" then some ["text", "substring"]
  else if name = "assertValue" then some ["value".toList]
  else if name = "assertChecked" then some ["checked".toList]
  else if name = "assertVisible" then some ["visible".toList]
  else none

open Yaml

/-- A button. Its name may also be the key of an empty mapping. -/
def buttonOfNode? : Node → Option MouseButton
  | .value (.mapping [(.string name, .mapping [])]) => MouseButton.ofNode? (.value (.string name))
  | n => MouseButton.ofNode? n

/-- The gesture with this name and these fields. A click is one with the left button, once and
without modifiers, unless something else is said. -/
def ofRecord? (name : Text) (r : Node.Record) : Option Gesture :=
  if name = "click" then do
    return .click (← r.defaulted? "button" .left buttonOfNode?)
      (← r.defaulted? "modifiers" 0 Node.uint32?) (← r.defaulted? "clickCount" 1 Node.uint32?)
  else if name = "fill" then return .fill (← r.required? "text" Node.text?)
  else if name = "press" then
    return .press (← r.required? "key" Node.text?) (← r.defaulted? "modifiers" 0 Node.uint32?)
  else if name = "check" then some .check
  else if name = "uncheck" then some .uncheck
  else if name = "select" then
    return .select (← r.required? "options" (Node.list? Node.text?))
  else if name = "assertText" then
    return .assertText (← r.required? "text" Node.text?)
      (← r.defaulted? "substring" false Node.bool?)
  else if name = "assertValue" then return .assertValue (← r.required? "value" Node.text?)
  else if name = "assertChecked" then return .assertChecked (← r.required? "checked" Node.bool?)
  else if name = "assertVisible" then
    return .assertVisible (← r.optional? "visible" true Node.bool?)
  else none

end Gesture

/-! ## Deeds -/

namespace Deed

def name : Deed → Text
  | .navigate _ => "navigate"
  | .openPage _ => "openPage"
  | .closePage => "closePage"
  | .onElement _ gesture => gesture.name

def selector? : Deed → Option Text
  | .onElement selector _ => selector
  | _ => none

/-- The fields of a deed, but for its name. -/
def members : Deed → List (Text × Json)
  | .navigate url => [("url", .string url)]
  | .openPage url => [("url", .string url)]
  | .closePage => []
  | .onElement selector gesture => ("selector", .orNull .string selector) :: gesture.members

/-- The names of the fields of the deed with this name. -/
def fieldNames? (name : Text) : Option (List Text) :=
  if name = "navigate" ∨ name = "openPage" then some ["url".toList]
  else if name = "closePage" then some []
  else (Gesture.fieldNames? name).map ("selector".toList :: ·)

open Yaml

def ofRecord? (name : Text) (r : Node.Record) : Option Deed :=
  if name = "navigate" then return .navigate (← r.required? "url" Node.text?)
  else if name = "openPage" then return .openPage (← r.required? "url" Node.text?)
  else if name = "closePage" then some .closePage
  else return .onElement (← r.optional? "selector" false Node.text?) (← Gesture.ofRecord? name r)

end Deed

/-! ## Actions -/

namespace Action

def name (a : Action) : Text := a.deed.name

def selector? (a : Action) : Option Text := a.deed.selector?

def toJson (a : Action) : Json :=
  .object (("name".toList, .string a.name) :: a.deed.members ++
    [("signals".toList, .array (a.signals.map Signal.toJson))])

open Yaml in
def ofNode? (n : Node) : Option Action := do
  let (name, rest) ← n.tagged? "name"
  let r ← rest.record? ((← Deed.fieldNames? name) ++ ["signals".toList])
  return ⟨← Deed.ofRecord? name r, ← r.defaulted? "signals" [] Signal.listOfNode?⟩

end Action

end Scenarist

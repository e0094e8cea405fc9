import Scenarist.Yaml.Record

/-! # Kinds of steps

A kind is written as a tag. An action that was recorded but has no step of its own is tagged by its
recorded name with `.unsupported` behind it.
-/

namespace Scenarist

inductive StepKind where
  | navigate
  | click
  | dblclick
  | fill
  | press
  | check
  | uncheck
  | select
  | assertText
  | assertValue
  | assertChecked
  | assertVisible
  | closePage
  | unsupported (name : Text)
deriving DecidableEq

namespace StepKind

/-- The kinds with a tag of their own. -/
def all : List StepKind :=
  [.navigate, .click, .dblclick, .fill, .press, .check, .uncheck, .select, .assertText,
    .assertValue, .assertChecked, .assertVisible, .closePage]

def unsupportedMark : Text := ".unsupported"

def tag : StepKind → Text
  | .navigate => "navigate"
  | .click => "click"
  | .dblclick => "dblclick"
  | .fill => "fill"
  | .press => "press"
  | .check => "check"
  | .uncheck => "uncheck"
  | .select => "select"
  | .assertText => "assert.text"
  | .assertValue => "assert.value"
  | .assertChecked => "assert.checked"
  | .assertVisible => "assert.visible"
  | .closePage => "closePage"
  | .unsupported name => name ++ unsupportedMark

/-- The kind that a tag names. A recorded name is not empty. -/
def ofTag? (t : Text) : Option StepKind :=
  (all.find? fun k => k.tag == t).or
    (((Text.dropEnd? unsupportedMark t).filter (· ≠ [])).map .unsupported)

/-- What is said of a tag that names no kind. -/
def unknownTagMessage (t : Text) : Text := "unknown step action `" ++ t ++ "`"

/-- The step is about an element. -/
def targetsElement : StepKind → Bool
  | .navigate | .closePage | .unsupported _ => false
  | _ => true

def toJson (k : StepKind) : Json := .string k.tag

def ofNode? (n : Yaml.Node) : Option StepKind := n.text?.bind ofTag?

end StepKind

end Scenarist

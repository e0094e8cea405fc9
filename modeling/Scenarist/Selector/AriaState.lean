import Scenarist.Text.Escaped
import Scenarist.Yaml.Record

/-! # States of accessible elements

A state is on, off, or mixed.
-/

namespace Scenarist

inductive AriaState where
  | on
  | off
  | mixed
deriving DecidableEq

namespace AriaState

def ofBool (b : Bool) : AriaState := if b then .on else .off

def toBool? : AriaState → Option Bool
  | .on => some true
  | .off => some false
  | .mixed => none

/-- The state that a word names. -/
def ofText? (t : Text) : Option AriaState :=
  if t = "true" then some .on
  else if t = "false" then some .off
  else if t = "mixed" then some .mixed
  else none

def toJson : AriaState → Json
  | .on => .bool true
  | .off => .bool false
  | .mixed => .string "mixed"

/-- Why a value is no state. -/
inductive Fault where
  /-- Neither a boolean nor a text. -/
  | noForm
  /-- A text other than `mixed`. -/
  | unknownWord (word : Text)

def Fault.message : Fault → Text
  | .noForm => "data did not match any variant of untagged enum Raw"
  | .unknownWord word => "expected true, false or \"mixed\", got " ++ Text.shown word

open Yaml in
def ofNode (n : Node) : Except Fault AriaState :=
  match n.content? with
  | some (.bool b) => .ok (ofBool b)
  | some (.string t) => if t = "mixed" then .ok .mixed else .error (.unknownWord t)
  | _ => .error .noForm

def ofNode? (n : Yaml.Node) : Option AriaState := (ofNode n).toOption

end AriaState

end Scenarist

import Scenarist.Yaml.Record

/-! # Mouse buttons and modifiers

The button that is pressed and the keys that are held during an input. A recording holds the keys
as a mask with one bit for each.
-/

namespace Scenarist

inductive MouseButton where
  | left
  | middle
  | right
deriving DecidableEq

namespace MouseButton

def all : List MouseButton := [.left, .middle, .right]

def name : MouseButton → Text
  | .left => "left"
  | .middle => "middle"
  | .right => "right"

def toJson (b : MouseButton) : Json := .string b.name

def ofNode? (n : Yaml.Node) : Option MouseButton :=
  n.choice?.bind fun word => all.find? fun b => b.name == word

end MouseButton

inductive Modifier where
  | alt
  | control
  | «meta»
  | shift
deriving DecidableEq

namespace Modifier

/-- All modifiers in the order of their bits. -/
def all : List Modifier := [.alt, .control, .meta, .shift]

def bit : Modifier → UInt32
  | .alt => 1
  | .control => 2
  | .meta => 4
  | .shift => 8

/-- The modifiers of a mask; none when no bit of theirs is set. -/
def ofMask? (mask : UInt32) : Option (List Modifier) :=
  let held := all.filter fun m => mask &&& m.bit != 0
  if held = [] then none else some held

def toMask (modifiers : List Modifier) : UInt32 := modifiers.foldl (fun mask m => mask ||| m.bit) 0

def name : Modifier → Text
  | .alt => "Alt"
  | .control => "Control"
  | .meta => "Meta"
  | .shift => "Shift"

def toJson (m : Modifier) : Json := .string m.name

def ofNode? (n : Yaml.Node) : Option Modifier :=
  n.choice?.bind fun word => all.find? fun m => m.name == word

end Modifier

end Scenarist

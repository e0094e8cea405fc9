import Scenarist.Decimal.Number
import Scenarist.Json.Fault

/-! # Selector chains

A chain is a list of parts, each of which narrows what the parts before it found. A part names an
engine and has a body; the body of some engines quotes another chain. One part may be marked as
the one that is captured.
-/

namespace Scenarist

mutual

structure Chain where
  parts : List Part
  /-- The number of the captured part. -/
  capture : Option Nat

inductive Part where
  | plain (name source : Text)
  /-- A part whose body quotes a chain, with a distance behind it for engines that compare
  places. -/
  | nested (name source : Text) (inner : Chain) (distance : Option Binary64)

end

namespace Part

/-- The engine's name as it is written. -/
def name : Part → Text
  | .plain n _ => n
  | .nested n _ _ _ => n

/-- The body as it is written. -/
def source : Part → Text
  | .plain _ s => s
  | .nested _ s _ _ => s

/-- The engine's name without its mark as internal. -/
def engine (p : Part) : Text := (Text.dropStart? "internal:" p.name).getD p.name

/-- The body of a part that quotes no chain. -/
def text? : Part → Option Text
  | .plain _ s => some s
  | .nested _ _ _ _ => none

def inner? : Part → Option Chain
  | .plain _ _ => none
  | .nested _ _ inner _ => some inner

def distance? : Part → Option Binary64
  | .plain _ _ => none
  | .nested _ _ _ distance => distance

end Part

namespace Chain

/-- Why the body of a part quotes no chain. -/
inductive QuoteCause where
  | json (text : Text) (fault : Json.Fault)
  | form

def QuoteCause.message : QuoteCause → Text
  | .json text fault => fault.message text
  | .form => "expected a quoted selector optionally followed by a distance"

/-- Why a text writes no chain. -/
inductive Fault where
  | empty
  | emptyPart (selector : Text)
  | severalCaptures (selector : Text)
  | quote (engine : Text) (cause : QuoteCause)

def Fault.message : Fault → Text
  | .empty => "selector cannot be empty"
  | .emptyPart selector => "malformed selector `" ++ selector ++ "`: empty selector part"
  | .severalCaptures selector =>
    "only one part of `" ++ selector ++ "` can capture using the * modifier"
  | .quote engine cause => "invalid nested selector for `" ++ engine ++ "`: " ++ cause.message

end Chain

end Scenarist

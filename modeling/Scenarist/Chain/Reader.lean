import Scenarist.Chain.Split
import Scenarist.Json.Reader

/-! # Reading and writing chains

The body of an engine that quotes a chain is a JSON string, with a number behind a comma if the
engine takes a distance. Written again, the names of engines that are told by the form of their
part are left out.
-/

namespace Scenarist

/-- The number as a double. -/
def Number.toBinary64 : Number → Binary64
  | .integer n _ => if n < 0 then (Binary64.ofNat n.natAbs).neg else Binary64.ofNat n.natAbs
  | .real x => x

namespace Chain

/-- The engines whose body quotes a chain. -/
def nestedEngines : List Text :=
  ["internal:has", "internal:has-not", "internal:and", "internal:or", "internal:chain", "left-of",
    "right-of", "above", "below", "near"].map String.toList

/-- The quoted text of a body, and the distance behind it. -/
def unquote (engine body : Text) : Except Fault (Text × Option Binary64) :=
  let list := '[' :: body ++ [']']
  match Json.readList list with
  | .error fault => .error (.quote engine (.json list fault))
  | .ok [.string inner] => .ok (inner, none)
  | .ok [.string inner, .number distance] => .ok (inner, some distance.toBinary64)
  | .ok _ => .error (.quote engine .form)

/-- The part with this name and body. `read` reads a quoted chain. -/
def part (read : Text → Except Fault Chain) (name body : Text) : Except Fault Part :=
  if Text.isOneOf name nestedEngines then do
    let (inner, distance) ← unquote name body
    return .nested name body (← read inner) distance
  else .ok (.plain name body)

/-- The chain of a text. A quoted text is shorter than the text it stands in, so chains can be
nested no deeper than `room`, if that is the length of the text. -/
def readWithin : (room : Nat) → Text → Except Fault Chain
  | 0, _ => .error .empty
  | n + 1, t => do
    let s ← split t
    let parts ← s.parts.mapM fun (name, body) => part (readWithin n) name body
    return ⟨parts, s.capture⟩

/-- The chain that a text writes. -/
def read (t : Text) : Except Fault Chain := readWithin t.length t

/-! ## Writing -/

/-- The engine is told by the form of the part. Only what begins like a path is told to be one. -/
def isImplied (p : Part) : Bool :=
  p.name == "css".toList ||
    (p.name == "xpath".toList &&
      ((Text.dropStart? "//" p.source).isSome || (Text.dropStart? ".." p.source).isSome))

/-- A part as it is written, with a star if it is captured. -/
def partText (captured : Bool) (p : Part) : Text :=
  if captured then '*' :: p.name ++ '=' :: p.source
  else if isImplied p then p.source
  else p.name ++ '=' :: p.source

/-- The parts from number `index` on as they are written. -/
def partTexts (capture : Option Nat) : (index : Nat) → List Part → List Text
  | _, [] => []
  | index, p :: r => partText (capture == some index) p :: partTexts capture (index + 1) r

/-- The text of a chain. -/
def toText (c : Chain) : Text := Text.join " >> " (partTexts c.capture 0 c.parts)

end Chain

end Scenarist

import Scenarist.Json.Reader
import Scenarist.Json.Writer

/-! # Reading JSON of a known type

Readers of strings, lists and records that report what they find in place of what they expect.
A record is an object whose members are known by name, or a list of their values in order; other
members of an object are skipped.
-/

namespace Scenarist.Json

/-- The fault of a scalar of another type lies behind it. -/
def foundAfter {α : Type} (expected : Text) (found : Found) (rest : Text) : Except Fault α :=
  faultAt (.wrongType found expected) rest

def foundNumber : Number → Found
  | .integer n _ => .integer n
  | .real x => .real (numberText (.real x))

/-- Reports the value at the start of `t`, which is of another type than `expected`. -/
def mistyped {α : Type} (expected t : Text) : Except Fault α := do
  match t with
  | [] => faultAt .endInValue []
  | 'n' :: r => foundAfter expected .null (← word "ull" r)
  | 't' :: r => foundAfter expected (.bool true) (← word "rue" r)
  | 'f' :: r => foundAfter expected (.bool false) (← word "alse" r)
  | '"' :: r => do
    let (s, rest) ← stringBody 0 r
    foundAfter expected (.string s) rest
  | '-' :: r => do
    let (n, rest) ← numberBody true r
    foundAfter expected (foundNumber n) rest
  | '[' :: r => foundAfter expected .sequence ('[' :: r)
  | '\x7b' :: r => foundAfter expected .map ('\x7b' :: r)
  | c :: r =>
    if c.isDigit then do
      let (n, rest) ← numberBody false (c :: r)
      foundAfter expected (foundNumber n) rest
    else faultInto .expectedValue (c :: r)

def text : Reader Text := fun t =>
  match skipSpace t with
  | '"' :: r => stringBody 0 r
  | r => mistyped "a string" r

def listOf {α : Type} (item : Reader α) : Reader (List α) := fun t =>
  match skipSpace t with
  | '[' :: r => items item (r.length + 1) true r
  | r => mistyped "a sequence" r

/-! ## Records -/

/-- What to do with a member of an object, when `σ` holds what was read before. -/
inductive Member (σ : Type) where
  /-- The name has no meaning. -/
  | skip
  /-- A member of this name was read before. -/
  | again
  | read (reader : Reader σ)

/-- Reports a member that is there again, at what follows its name. If that is the end of the
object it is passed. -/
def duplicate {α : Type} (name t : Text) : Except Fault α :=
  faultAt (.duplicateField name) (match skipSpace t with
    | '\x7d' :: r => r
    | r => r)

/-- The members of an object after its bracket, up to the closing one. -/
def memberFields {σ : Type} (member : σ → Text → Member σ) :
    (fuel : Nat) → (first : Bool) → (sofar : σ) → Reader σ
  | 0, _, s, t => .ok (s, t)
  | n + 1, first, s, t => do
    match ← nextKey first t with
    | none => return (s, skipSpace t)
    | some start =>
      let (name, rest) ← stringBody 0 start
      match member s name with
      | .skip => memberFields member n false s (← skipValue (← colon rest))
      | .again => duplicate name rest
      | .read reader =>
        let (s, rest) ← reader (← colon rest)
        memberFields member n false s rest

/-- A member of a list, if there is another one: what `reader` reads, or else what was there. -/
def listField {σ : Type} (first : Bool) (reader : Reader σ) (s : σ) : Reader σ := fun t =>
  match skipSpace t with
  | [] => faultAt .endInList []
  | ']' :: r => .ok (s, ']' :: r)
  | c :: r => do reader (← items.nextItem first c r)

/-- The members of a list after its bracket, up to what follows them. -/
def listFields {σ : Type} : (first : Bool) → (sofar : σ) → List (σ → Reader σ) → Reader σ
  | _, s, [], t => .ok (s, t)
  | first, s, field :: fields, t => do
    let (s, rest) ← listField first (field s) s t
    listFields false s fields rest

/-- How a record is read: its name in reports, its members by name and in order, and what was read
before any. -/
structure Form (σ : Type) where
  name : Text
  start : σ
  member : σ → Text → Member σ
  inOrder : List (σ → Reader σ)

/-- A record. `finish` gives the value of what was read, or the fault of what is missing in an
object or in a list. -/
def recordOf {σ α : Type} (form : Form σ) (finish : (listed : Bool) → σ → Except Cause α) :
    Reader α := fun t =>
  let finishAt (listed : Bool) (s : σ) (rest : Text) : Except Fault (α × Text) :=
    match finish listed s with
    | .ok a => .ok (a, rest)
    | .error cause => faultAt cause rest
  match skipSpace t with
  | '\x7b' :: r => do
    let (s, rest) ← memberFields form.member (r.length + 1) true form.start r
    finishAt false s (← objectEnd rest)
  | '[' :: r => do
    let (s, rest) ← listFields true form.start form.inOrder r
    finishAt true s (← listEnd rest)
  | r => mistyped ("struct " ++ form.name) r

end Scenarist.Json

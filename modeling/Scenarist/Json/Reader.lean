import Scenarist.Json.Lexeme

/-! # Reading JSON text

Lists and objects are read by one loop each, which is given the reader of an item. Brackets nest
to a limit; a value that is only skipped has none.
-/

namespace Scenarist.Json

/-- A reader takes the text that is left, and gives a result and the text after it. -/
abbrev Reader (α : Type) := Text → Except Fault (α × Text)

/-! ## Loops -/

/-- The items of a list after its bracket, to the end of the list. `fuel` bounds their number. -/
def items {α : Type} (item : Reader α) : (fuel : Nat) → (first : Bool) → Reader (List α)
  | 0, _, t => .ok ([], t)
  | n + 1, first, t => do
    match skipSpace t with
    | [] => faultAt .endInList []
    | ']' :: r => return ([], r)
    | c :: r =>
      let start ← nextItem first c r
      let (v, rest) ← item start
      let (vs, rest) ← items item n false rest
      return (v :: vs, rest)
where
  /-- Where the next item begins, when the list goes on with `c`. -/
  nextItem (first : Bool) (c : Char) (r : Text) : Except Fault Text :=
    if first then .ok (c :: r)
    else if c = ',' then
      match skipSpace r with
      | [] => faultAt .endInValue []
      | ']' :: r => faultInto .trailingComma (']' :: r)
      | r => .ok r
    else faultInto .expectedCommaInList (c :: r)

/-- The text after a colon. -/
def colon (t : Text) : Except Fault Text :=
  match skipSpace t with
  | [] => faultAt .endInObject []
  | ':' :: r => .ok r
  | r => faultInto .expectedColon r

/-- Where the next key of an object begins, behind its quote; nothing at the end of the object. -/
def nextKey (first : Bool) (t : Text) : Except Fault (Option Text) :=
  match skipSpace t with
  | [] => faultAt .endInObject []
  | '\x7d' :: _ => .ok none
  | ',' :: r =>
    if first then faultInto .keyNotString (',' :: r)
    else match skipSpace r with
      | [] => faultAt .endInValue []
      | '"' :: r => .ok (some r)
      | '\x7d' :: r => faultInto .trailingComma ('\x7d' :: r)
      | r => faultInto .keyNotString r
  | c :: r =>
    if !first then faultInto .expectedCommaInObject (c :: r)
    else if c = '"' then .ok (some r)
    else faultInto .keyNotString (c :: r)

/-- The end of an object. -/
def objectEnd (t : Text) : Except Fault Text :=
  match skipSpace t with
  | [] => faultAt .endInObject []
  | '\x7d' :: r => .ok r
  | ',' :: r => faultInto .trailingComma (',' :: r)
  | r => faultInto .trailingCharacters r

/-- The end of a list. -/
def listEnd (t : Text) : Except Fault Text :=
  match skipSpace t with
  | [] => faultAt .endInList []
  | ']' :: r => .ok r
  | ',' :: r =>
    match skipSpace r with
    | ']' :: r => faultInto .trailingComma (']' :: r)
    | r => faultInto .trailingCharacters r
  | r => faultInto .trailingCharacters r

/-- The members of an object after its bracket, up to the closing one. -/
def members {α : Type} (item : Reader α) : (fuel : Nat) → (first : Bool) → Reader (List (Text × α))
  | 0, _, t => .ok ([], t)
  | n + 1, first, t => do
    match ← nextKey first t with
    | none => return ([], skipSpace t)
    | some start =>
      let (key, rest) ← stringBody 0 start
      let (v, rest) ← item (← colon rest)
      let (vs, rest) ← members item n false rest
      return ((key, v) :: vs, rest)

/-! ## Values -/

/-- A value in which `depth` more levels of brackets may open. -/
def value (depth : Nat) : Reader Json := fun t =>
  match skipSpace t with
  | [] => faultAt .endInValue []
  | 'n' :: r => do return (.null, ← word "ull" r)
  | 't' :: r => do return (.bool true, ← word "rue" r)
  | 'f' :: r => do return (.bool false, ← word "alse" r)
  | '"' :: r => do
    let (s, rest) ← stringBody 0 r
    return (.string s, rest)
  | '-' :: r => do
    let (n, rest) ← numberBody true r
    return (.number n, rest)
  | '[' :: r =>
    match depth with
    | 0 => faultInto .tooDeep ('[' :: r)
    | d + 1 => do
      let (vs, rest) ← items (value d) (r.length + 1) true r
      return (.array vs, rest)
  | '\x7b' :: r =>
    match depth with
    | 0 => faultInto .tooDeep ('\x7b' :: r)
    | d + 1 => do
      let (ms, rest) ← members (value d) (r.length + 1) true r
      return (ofMembers ms, ← objectEnd rest)
  | c :: r =>
    if c.isDigit then do
      let (n, rest) ← numberBody false (c :: r)
      return (.number n, rest)
    else faultInto .expectedValue (c :: r)

/-- How many brackets may be open at once. -/
def depthLimit : Nat := 127

/-- Nothing but blanks follows. -/
def atEnd (t : Text) : Except Fault Unit :=
  match skipSpace t with
  | [] => .ok ()
  | r => faultInto .trailingCharacters r

/-- A whole text as what `reader` reads. -/
def whole {α : Type} (reader : Reader α) (t : Text) : Except Fault α := do
  let (v, rest) ← reader t
  atEnd rest
  return v

/-- The value that a text writes. -/
def read (t : Text) : Except Fault Json := whole (value depthLimit) t

/-- The values of a list that a text writes. -/
def readList (t : Text) : Except Fault (List Json) :=
  whole (fun t =>
    match skipSpace t with
    | '[' :: r => items (value (depthLimit - 1)) (r.length + 1) true r
    | r => faultInto .expectedValue r) t

/-- The string that a text writes. -/
def readString? (t : Text) : Option Text :=
  match skipSpace t with
  | '"' :: r => (whole (stringBody 0) r).toOption
  | _ => none

/-! ## Skipping -/

/-- An open bracket. -/
inductive Bracket where
  | list
  | object
deriving DecidableEq

/-- Where skipping goes on: the brackets that are still open and the text there. -/
structure Pending where
  enclosing : List Bracket
  rest : Text

/-- The text from the value of a skipped member on. -/
def skipKey (t : Text) : Except Fault Text := do
  match skipSpace t with
  | [] => faultAt .endInObject []
  | '"' :: r =>
    let rest ← skipStringBody 0 r
    colon rest
  | r => faultInto .keyNotString r

/-- Closes brackets after a skipped value, until another value follows or none is open. Right
after an opening bracket no comma is taken. -/
def settle (comma : Bool) : List Bracket → Text → Except Fault Pending
  | [], t => .ok ⟨[], t⟩
  | bracket :: outer, t =>
    match skipSpace t, bracket with
    | [], .list => faultAt .endInList []
    | [], .object => faultAt .endInObject []
    | ']' :: r, .list | '\x7d' :: r, .object => settle true outer r
    | c :: r, .list =>
      if c = ',' ∧ comma then .ok ⟨bracket :: outer, r⟩
      else if comma then faultInto .expectedCommaInList (c :: r)
      else .ok ⟨bracket :: outer, c :: r⟩
    | c :: r, .object => do
      if c = ',' ∧ comma then return ⟨bracket :: outer, ← skipKey r⟩
      else if comma then faultInto .expectedCommaInObject (c :: r)
      else return ⟨bracket :: outer, ← skipKey (c :: r)⟩

/-- Skips one scalar or opening bracket, and then what closes. -/
def skipStep (pending : Pending) : Except Fault Pending := do
  let settled := settle true pending.enclosing
  match skipSpace pending.rest with
  | [] => faultAt .endInValue []
  | 'n' :: r => settled (← word "ull" r)
  | 't' :: r => settled (← word "rue" r)
  | 'f' :: r => settled (← word "alse" r)
  | '"' :: r => settled (← skipStringBody 0 r)
  | '-' :: r => settled (← skipNumberBody r)
  | '[' :: r => settle false (.list :: pending.enclosing) r
  | '\x7b' :: r => settle false (.object :: pending.enclosing) r
  | c :: r =>
    if c.isDigit then settled (← skipNumberBody (c :: r))
    else faultInto .expectedValue (c :: r)

/-- Skips until no bracket is open. -/
def skipLoop : (fuel : Nat) → Pending → Except Fault Text
  | 0, pending => .ok pending.rest
  | n + 1, pending => do
    let next ← skipStep pending
    if next.enclosing = [] then return next.rest else skipLoop n next

/-- The text after a value that is skipped. -/
def skipValue (t : Text) : Except Fault Text := skipLoop (t.length + 1) ⟨[], t⟩

end Scenarist.Json

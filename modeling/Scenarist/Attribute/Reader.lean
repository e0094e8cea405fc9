import Scenarist.Attribute.Basic
import Scenarist.Decimal.Reading

/-! # Reading attributes

Each reader takes the text that is left and gives back what it read and the text after it, which
is a part of the end of what it took. A fault says how much text was left when it arose.
-/

namespace Scenarist.Attribute

/-- A cause, and the text that was left. -/
structure Stop where
  cause : Cause
  rest : Text

/-- Letters, digits, dash, dollar and underscore. -/
def isNameChar (c : Char) : Bool := c.isAlphanum || c == '-' || c == '$' || c == '_'

def skipBlanks (t : Text) : Text := t.dropWhile Text.isBlank

/-- The name at the beginning, after blanks. -/
def readName (t : Text) : Text × Text := (skipBlanks t).span isNameChar

/-- The text up to `quote`. A backslash takes away the meaning of what follows it. -/
def readQuoted (quote : Char) : Text → Except Stop (Text × Text)
  | [] => .error ⟨.unterminatedText, []⟩
  | '\\' :: c :: r => (readQuoted quote r).map fun (t, rest) => (c :: t, rest)
  | c :: r =>
    if c = quote then .ok ([], r)
    else (readQuoted quote r).map fun (t, rest) => (c :: t, rest)

/-- A pattern up to a slash that stands outside of classes and behind no backslash. -/
def readPattern : (inClass : Bool) → Text → Except Stop (Text × Text)
  | _, [] => .error ⟨.unterminatedRegex, []⟩
  | inClass, '\\' :: c :: r => (readPattern inClass r).map fun (t, rest) => ('\\' :: c :: t, rest)
  | inClass, c :: r =>
    if c = '/' ∧ !inClass then .ok ([], r)
    else
      let inClass := if inClass then c ≠ ']' else c = '['
      (readPattern inClass r).map fun (t, rest) => (c :: t, rest)

def isFlagLetter (c : Char) : Bool := c ∈ ['d', 'g', 'i', 'm', 's', 'u', 'y']

/-- A pattern behind its first slash, with flag letters. It must compile. -/
def readRegex (t : Text) : Except Stop (AttributeValue × Text) := do
  let (pattern, rest) ← readPattern false t
  let (flags, rest) := rest.span isFlagLetter
  match Pattern.compile pattern flags with
  | .ok _ => return (.regex pattern flags, rest)
  | .error fault => throw ⟨.regex fault, rest⟩

/-- A part of a path: a name or a quoted text, which may not be empty. -/
def readPathPart (t : Text) : Except Stop (Text × Text) := do
  let t := skipBlanks t
  let (part, rest) ← match t with
    | '\'' :: r => readQuoted '\'' r
    | '"' :: r => readQuoted '"' r
    | _ => .ok (readName t)
  if part = [] then throw ⟨.path, rest⟩ else return (part, rest)

/-- The parts of a path with points between them. Every round takes a point. -/
def readPath : (fuel : Nat) → Text → Except Stop (List Text × Text)
  | 0, t => .ok ([], t)
  | n + 1, t => do
    let (part, rest) ← readPathPart t
    match skipBlanks rest with
    | '.' :: r =>
      let (parts, rest) ← readPath n r
      return (part :: parts, rest)
    | rest => return ([part], rest)

/-- The operator of one character and an equals sign. -/
def opOf? : Char → Option AttributeOp
  | '*' => some .contains
  | '^' => some .startsWith
  | '$' => some .endsWith
  | '|' => some .dashMatch
  | '~' => some .word
  | _ => none

def readOp (t : Text) : Except Stop (AttributeOp × Text) :=
  match skipBlanks t with
  | '=' :: r => .ok (.equals, r)
  | c :: d :: r =>
    match opOf? c with
    | some op => if d = '=' then .ok (op, r) else .error ⟨.operator, r⟩
    | none => .error ⟨.operator, r⟩
  | _ => .error ⟨.operator, []⟩

/-- The characters of values without quotes. -/
def isValueChar (c : Char) : Bool :=
  128 ≤ c.toNat || c.isAlphanum || c == '_' || c == '-' || c == '+' || c == '.'

/-- A value without quotes: a boolean, or any text if `allowText`, or else a number. -/
def readUnquoted (allowText : Bool) (t : Text) : Except Stop (AttributeValue × Text) :=
  let (token, rest) := t.span isValueChar
  if token = "true" then .ok (.bool true, rest)
  else if token = "false" then .ok (.bool false, rest)
  else if allowText then .ok (.text token, rest)
  else
    match Decimal.read? token with
    | some x => .ok (.number x, rest)
    | none => .error ⟨.value, rest⟩

/-- The letter behind a quoted value that says whether case counts. -/
def readCase (t : Text) : Bool × Text :=
  match skipBlanks t with
  | 'i' :: r | 'I' :: r => (false, r)
  | 's' :: r | 'S' :: r => (true, r)
  | rest => (true, rest)

/-- A quoted value behind its quote, and whether case counts. -/
def readText (quote : Char) (t : Text) : Except Stop (AttributeValue × Bool × Text) := do
  let (value, rest) ← readQuoted quote t
  let (caseSensitive, rest) := readCase rest
  return (.text value, caseSensitive, rest)

def readValue (allowText : Bool) (op : AttributeOp) (t : Text) :
    Except Stop (AttributeValue × Bool × Text) :=
  match t with
  | '/' :: r =>
    if op ≠ .equals then .error ⟨.regexOperator, t⟩
    else (readRegex r).map fun (v, rest) => (v, true, rest)
  | '\'' :: r => readText '\'' r
  | '"' :: r => readText '"' r
  | _ => (readUnquoted allowText t).map fun (v, rest) => (v, true, rest)

def AttributeValue.isText : AttributeValue → Bool
  | .text _ => true
  | _ => false

/-- An attribute behind its opening bracket. -/
def readAttribute (allowText : Bool) (t : Text) : Except Stop (Attribute × Text) := do
  let (path, rest) ← readPath (t.length + 1) t
  match rest with
  | ']' :: r => return (⟨path, .truthy, .none, false, []⟩, r)
  | _ =>
    let (op, rest) ← readOp rest
    let start := skipBlanks rest
    let (value, caseSensitive, rest) ← readValue allowText op start
    let raw := Text.trim (start.take (start.length - rest.length))
    match skipBlanks rest with
    | ']' :: r =>
      if op ≠ .equals ∧ !AttributeValue.isText value then throw ⟨.textOperator, r⟩
      else return (⟨path, op, value, caseSensitive, raw⟩, r)
    | rest => throw ⟨.value, rest⟩

/-- Attributes one behind the other. Every round takes a bracket. -/
def readAttributes (allowText : Bool) : (fuel : Nat) → Text → Except Stop (List Attribute × Text)
  | 0, t => .ok ([], t)
  | n + 1, t =>
    match t with
    | '[' :: r => do
      let (a, rest) ← readAttribute allowText r
      let (as, rest) ← readAttributes allowText n (skipBlanks rest)
      return (a :: as, rest)
    | _ => .ok ([], t)

/-- A whole body: a name, which may be empty, and attributes. -/
def readBody (allowText : Bool) (t : Text) : Except Stop AttributeBody := do
  let (name, rest) := readName t
  let (attributes, rest) ← readAttributes allowText (t.length + 1) (skipBlanks rest)
  if rest ≠ [] then throw ⟨.trailingInput, rest⟩ else return ⟨name, attributes⟩

end Attribute

/-- The body that a text writes. Texts without quotes may stand for values only if `allowText`. -/
def AttributeBody.read (allowText : Bool) (t : Text) : Except Attribute.Fault AttributeBody :=
  match Attribute.readBody allowText t with
  | .error stop => .error (.at t (t.length - stop.rest.length) stop.cause)
  | .ok body => if body.name = [] ∧ body.attributes = [] then .error .empty else .ok body

end Scenarist

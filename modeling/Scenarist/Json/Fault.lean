import Scenarist.Text.Escaped

/-! # Faults in JSON text

A fault has a cause and a place. The place is kept as the number of bytes of the text that were
left; line and column are counted from it when the fault is reported.
-/

namespace Scenarist.Json

/-- The value that stood where another type was asked for. -/
inductive Found where
  | null
  | bool (value : Bool)
  | integer (value : Int)
  | real (text : Text)
  | string (value : Text)
  | sequence
  | map

inductive Cause where
  | endInValue | endInString | endInList | endInObject
  | expectedColon | expectedCommaInList | expectedCommaInObject | expectedValue | expectedIdent
  | invalidEscape | invalidNumber | numberOutOfRange
  | loneSurrogate | unfinishedSurrogate | controlCharacter
  | keyNotString | trailingComma | trailingCharacters | tooDeep
  | wrongType (found : Found) (expected : Text)
  | wrongLength (length : Nat) (expected : Text)
  | missingField (name : Text)
  | duplicateField (name : Text)

structure Fault where
  cause : Cause
  left : Nat

/-- A line, counted from one, and a column in bytes. -/
structure Position where
  line : Nat
  column : Nat

def Found.message : Found → Text
  | .null => "null"
  | .bool b => "boolean `" ++ (if b then "true".toList else "false") ++ "`"
  | .integer n => "integer `" ++ Text.ofInt n ++ "`"
  | .real t => "floating point `" ++ t ++ "`"
  | .string t => "string " ++ Text.shown t
  | .sequence => "sequence"
  | .map => "map"

def Cause.message : Cause → Text
  | .endInValue => "EOF while parsing a value"
  | .endInString => "EOF while parsing a string"
  | .endInList => "EOF while parsing a list"
  | .endInObject => "EOF while parsing an object"
  | .expectedColon => "expected `:`"
  | .expectedCommaInList => "expected `,` or `]`"
  | .expectedCommaInObject => "expected `,` or `\x7d`"
  | .expectedValue => "expected value"
  | .expectedIdent => "expected ident"
  | .invalidEscape => "invalid escape"
  | .invalidNumber => "invalid number"
  | .numberOutOfRange => "number out of range"
  | .loneSurrogate => "lone leading surrogate in hex escape"
  | .unfinishedSurrogate => "unexpected end of hex escape"
  | .controlCharacter => "control character (\\u0000-\\u001F) found while parsing a string"
  | .keyNotString => "key must be a string"
  | .trailingComma => "trailing comma"
  | .trailingCharacters => "trailing characters"
  | .tooDeep => "recursion limit exceeded"
  | .wrongType found expected => "invalid type: " ++ found.message ++ ", expected " ++ expected
  | .wrongLength length expected =>
    "invalid length " ++ Text.ofNat length ++ ", expected " ++ expected
  | .missingField name => "missing field `" ++ name ++ "`"
  | .duplicateField name => "duplicate field `" ++ name ++ "`"

/-- The place `offset` bytes into the text, for a text that begins at the given place. -/
def Position.after (offset : Nat) (place : Position) : Text → Position
  | [] => place
  | c :: r =>
    if c.utf8Size ≤ offset then
      after (offset - c.utf8Size)
        (if c = '\n' then ⟨place.line + 1, 0⟩ else ⟨place.line, place.column + c.utf8Size⟩) r
    else ⟨place.line, place.column + offset⟩

def Fault.position (text : Text) (fault : Fault) : Position :=
  Position.after (Text.utf8Length text - fault.left) ⟨1, 0⟩ text

/-- The report of a fault in `text`. -/
def Fault.message (text : Text) (fault : Fault) : Text :=
  let place := fault.position text
  fault.cause.message ++ " at line " ++ Text.ofNat place.line ++ " column " ++
    Text.ofNat place.column

end Scenarist.Json

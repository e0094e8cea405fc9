import Scenarist.Decimal.Number
import Scenarist.Pattern.Compile
import Scenarist.Selector.AriaState
import Scenarist.Text.Basic

/-! # Attributes

The body of a role, test id or attribute selector: a name and attributes in brackets, each with a
path, an operator and a value.
-/

namespace Scenarist

/-- How the value of an attribute is compared. -/
inductive AttributeOp where
  | truthy
  | equals
  | contains
  | startsWith
  | endsWith
  | dashMatch
  | word
deriving DecidableEq

inductive AttributeValue where
  | none
  | text (value : Text)
  | number (value : Binary64)
  | bool (value : Bool)
  | regex (pattern flags : Text)
deriving DecidableEq

structure Attribute where
  /-- The parts of the name between points. -/
  path : List Text
  op : AttributeOp
  value : AttributeValue
  caseSensitive : Bool
  /-- The value as it is written. -/
  raw : Text
deriving DecidableEq

structure AttributeBody where
  name : Text
  attributes : List Attribute
deriving DecidableEq

namespace AttributeValue

/-- A value as its reader would say it. -/
def toText? : AttributeValue → Option Text
  | .none => .none
  | .text t => some t
  | .number x => some (Decimal.plain x)
  | .bool b => some (if b then "true" else "false")
  | .regex pattern _ => some pattern

/-- A value as a level, which is a word of 32 bits. -/
def toLevel? : AttributeValue → Option UInt32
  | .text t =>
    (Text.toUnsigned? 10 (Text.trim t)).bind fun n =>
      if n < 0x100000000 then some (UInt32.ofNat n) else Option.none
  | .number x => x.toNat?.bind fun n => if n < 0x100000000 then some (UInt32.ofNat n)
    else Option.none
  | _ => Option.none

end AttributeValue

namespace Attribute

def name (a : Attribute) : Text := Text.join "." a.path

/-- The state that the attribute asks for. Without a value it asks for on. -/
def toAria? (a : Attribute) : Option AriaState :=
  if a.op = .truthy then some .on
  else
    match a.value with
    | .bool b => some (.ofBool b)
    | .text t => AriaState.ofText? t
    | _ => none

/-- Why a body cannot be read. -/
inductive Cause where
  | trailingInput
  | unterminatedText
  | unterminatedRegex
  | regex (fault : Pattern.CompileFault)
  | path
  | operator
  | regexOperator
  | value
  | textOperator

def Cause.message : Cause → Text
  | .trailingInput => "unexpected trailing input"
  | .unterminatedText => "unterminated quoted string"
  | .unterminatedRegex => "unterminated regular expression"
  | .regex fault => fault.message
  | .path => "parsing property path"
  | .operator => "parsing operator"
  | .regexOperator => "regular expressions are only supported with ="
  | .value => "parsing attribute value"
  | .textOperator => "non-equality operators require a string value"

inductive Fault where
  /-- Neither a name nor an attribute. -/
  | empty
  /-- A cause after so many characters. -/
  | at (body : Text) (position : Nat) (cause : Cause)

def Fault.message : Fault → Text
  | .empty => "selector cannot be empty"
  | .at body position cause =>
    "error while parsing `" ++ body ++ "` at position " ++ Text.ofNat position ++ ": " ++
      cause.message

end Attribute

end Scenarist

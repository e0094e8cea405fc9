import Scenarist.Yaml.Tree
import Scenarist.Decimal.Notation
import Scenarist.Decimal.Reading

/-! # Plain scalars

How a scalar without quotes is written and which value it has. A text that is none of the words
for null, booleans and numbers is a string.
-/

namespace Scenarist.Yaml

/-- Infinities and no number have words of their own. -/
def realText (x : Binary64) : Text :=
  if x.isNaN then ".nan"
  else if x.isInfinite then (if x.isNegative then "-.inf" else ".inf")
  else Decimal.fractional x

def numberText : Number → Text
  | .integer n _ => Text.ofInt n
  | .real x => realText x

namespace Scalar

def isNullWord (t : Text) : Bool := t.isOneOf ["null", "Null", "NULL", "~"]

def bool? (t : Text) : Option Bool :=
  if t.isOneOf ["true", "True", "TRUE"] then some true
  else if t.isOneOf ["false", "False", "FALSE"] then some false
  else none

/-- A zero with more digits behind it, which is read as a string. -/
def isPaddedNumber (t : Text) : Bool :=
  let t := match t with
    | '-' :: r | '+' :: r => r
    | r => r
  match t with
  | '0' :: d :: r => (d :: r).all Char.isDigit
  | _ => false

/-- The digits behind the mark of a base, with a sign of their own allowed only in base ten. -/
def based? (t : Text) : Option Nat :=
  match t with
  | '0' :: 'x' :: r => Text.toNat? 16 r
  | '0' :: 'o' :: r => Text.toNat? 8 r
  | '0' :: 'b' :: r => Text.toNat? 2 r
  | _ => none

/-- A natural number, in base ten or behind the mark of another base. -/
def natural? (t : Text) : Option Nat :=
  let unsigned := match t with
    | '+' :: r => r
    | r => r
  match based? unsigned with
  | some n => some n
  | none => if isPaddedNumber t then none else Text.toNat? 10 unsigned

/-- A number with a minus sign. -/
def negative? (t : Text) : Option Int :=
  match t with
  | '-' :: r =>
    match based? r with
    | some n => some (-(n : Int))
    | none => if isPaddedNumber t then none else (Text.toNat? 10 r).map fun n => -(n : Int)
  | _ => none

/-- An integer of any size. -/
def integer? (t : Text) : Option Int :=
  match natural? t with
  | some n => some n
  | none => negative? t

/-- A double, with its own words for infinity; a finite notation that overflows is none. -/
def real? (t : Text) : Option Binary64 :=
  let unsigned := match t with
    | '+' :: r => r
    | r => r
  if unsigned ≠ t ∧ (unsigned.head? = some '+' ∨ unsigned.head? = some '-') then none
  else if Text.isOneOf unsigned [".inf", ".Inf", ".INF"] then some (.infinity false)
  else if t.isOneOf ["-.inf", "-.Inf", "-.INF"] then some (.infinity true)
  else if t.isOneOf [".nan", ".NaN", ".NAN"] then some (.nan false)
  else (Decimal.read? unsigned).filter Binary64.isFinite

/-- The value of a plain scalar. An integer that needs more than 64 bits but at most 128 is none. -/
def value? (t : Text) : Option Tree :=
  if t = [] ∨ isNullWord t then some .null
  else match bool? t with
    | some b => some (.bool b)
    | none =>
      match integer? t with
      | some n =>
        match Number.ofInt? n with
        | some k => some (.number k)
        | none =>
          if -(Nat.pow 2 127) ≤ n ∧ n < Nat.pow 2 128 then none
          else some (number t)
      | none => some (number t)
where
  number (t : Text) : Tree :=
    if isPaddedNumber t then .string t
    else match real? t with
      | some x => .number (.real x)
      | none => .string t

end Scalar

end Scenarist.Yaml

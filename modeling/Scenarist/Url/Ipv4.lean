import Scenarist.Text.Basic

/-! # Addresses of 32 bits

Up to four numbers between points, in base 10, or in base 16 behind `0x`, or in base 8 behind a
zero. The last number fills the bytes that the others leave.
-/

namespace Scenarist.Ipv4

/-- A number without a limit; the part may be empty behind `0x`, but not without it. -/
def number? (part : Text) : Option Nat :=
  match part with
  | [] => none
  | ['0'] => some 0
  | '0' :: 'x' :: digits | '0' :: 'X' :: digits => Text.digitsValue? 16 digits
  | '0' :: digits => Text.toNat? 8 digits
  | digits => Text.toNat? 10 digits

/-- The parts between points; a point at the end is left out. -/
def parts (t : Text) : List Text :=
  let all := Text.splitAll '.' t
  if 1 < all.length ∧ all.getLast? = some [] then all.dropLast else all

/-- A name whose last part is a number is meant as an address. -/
def endsInNumber (name : Text) : Bool :=
  match (parts name).getLast? with
  | some part => (!part.isEmpty && part.all Char.isDigit) || (number? part).isSome
  | none => false

/-- The value of the numbers: each but the last one is a byte. -/
def value? : (room : Nat) → List Nat → Option Nat
  | _, [] => none
  | room, [n] => if n < Nat.pow 256 room then some n else none
  | 0, _ => none
  | room + 1, n :: r => if n < 256 then (value? room r).map (n * Nat.pow 256 room + ·) else none

def ofText? (t : Text) : Option UInt32 := do
  let all := parts t
  if 4 < all.length then none
  else return UInt32.ofNat (← value? 4 (← all.mapM number?))

/-- The four bytes in base 10 between points. -/
def toText (address : UInt32) : Text :=
  let n := address.toNat
  Text.join "." ([n / 0x1000000, n / 0x10000 % 256, n / 256 % 256, n % 256].map Text.ofNat)

end Scenarist.Ipv4

/-! # Double-precision numbers

A number is kept as its 64 bits: sign, eleven bits of exponent, 52 bits of fraction. All rounding
is done on natural numbers, to the nearest value and on a tie to the even one.
-/

namespace Scenarist

structure Binary64 where
  bits : UInt64
deriving DecidableEq

namespace Binary64

def exponentField (x : Binary64) : Nat := x.bits.toNat / 0x10000000000000 % 0x800

def fraction (x : Binary64) : Nat := x.bits.toNat % 0x10000000000000

def isNegative (x : Binary64) : Bool := 0x8000000000000000 ≤ x.bits.toNat

def isNaN (x : Binary64) : Bool := x.exponentField == 2047 && x.fraction != 0

def isInfinite (x : Binary64) : Bool := x.exponentField == 2047 && x.fraction == 0

def isFinite (x : Binary64) : Bool := x.exponentField != 2047

/-- A finite number has the magnitude `mantissa * 2 ^ exponent`. -/
def mantissa (x : Binary64) : Nat :=
  if x.exponentField = 0 then x.fraction else x.fraction + 0x10000000000000

def exponent (x : Binary64) : Int := (max x.exponentField 1 : Nat) - 1075

def isZero (x : Binary64) : Bool := x.exponentField == 0 && x.fraction == 0

/-- The number with these bits and the sign bit added. -/
def signed (negative : Bool) (magnitude : Nat) : Binary64 :=
  ⟨UInt64.ofNat (if negative then magnitude + 0x8000000000000000 else magnitude)⟩

/-- The bits of infinity. -/
def infinityBits : Nat := 2047 * 0x10000000000000

def infinity (negative : Bool) : Binary64 := signed negative infinityBits

def nan (negative : Bool) : Binary64 := signed negative (infinityBits + 0x8000000000000)

def zero (negative : Bool) : Binary64 := signed negative 0

/-- `num / den` rounded to a natural number, a half going to the even one. -/
def roundDiv (num den : Nat) : Nat :=
  let q := num / den
  let r := num % den
  if 2 * r < den then q else if den < 2 * r then q + 1 else q + q % 2

/-- `num / den * 2 ^ -e` as a quotient of natural numbers. -/
def scaleRatio (num den : Nat) (e : Int) : Nat × Nat :=
  if e < 0 then (num * Nat.pow 2 e.natAbs, den) else (num, den * Nat.pow 2 e.natAbs)

/-- The magnitude bits of the number nearest to `num / den`. The unit `2 ^ e` is chosen so that
the quotient has 53 bits, or is the smallest unit there is. -/
def magnitudeOfRatio (num den : Nat) : Nat :=
  if num = 0 then 0
  else
    let guess : Int := (num.log2 : Int) - den.log2 - 52
    let (n, d) := scaleRatio num den guess
    let e := max (if n / d < 0x10000000000000 then guess - 1 else guess) (-1074)
    let (n, d) := scaleRatio num den e
    min ((e + 1074).toNat * 0x10000000000000 + roundDiv n d) infinityBits

def ofRatio (negative : Bool) (num den : Nat) : Binary64 :=
  signed negative (magnitudeOfRatio num den)

def ofNat (n : Nat) : Binary64 := ofRatio false n 1

/-- The number nearest to `digits * 10 ^ e`. -/
def ofDecimal (negative : Bool) (digits : Nat) (e : Int) : Binary64 :=
  let size : Int := (Nat.toDigits 10 digits).length + e
  if digits = 0 || size < -330 then zero negative
  else if 311 < size then infinity negative
  else if e < 0 then ofRatio negative digits (Nat.pow 10 e.natAbs)
  else ofRatio negative (digits * Nat.pow 10 e.natAbs) 1

/-- The magnitude of a finite number as a quotient. -/
def ratio (x : Binary64) : Nat × Nat :=
  if x.exponent < 0 then (x.mantissa, Nat.pow 2 x.exponent.natAbs)
  else (x.mantissa * Nat.pow 2 x.exponent.natAbs, 1)

/-- The product of two finite positive numbers, rounded. -/
def mul (x y : Binary64) : Binary64 :=
  ofRatio false (x.ratio.1 * y.ratio.1) (x.ratio.2 * y.ratio.2)

/-- The quotient of two finite positive numbers, rounded. -/
def div (x y : Binary64) : Binary64 :=
  ofRatio false (x.ratio.1 * y.ratio.2) (x.ratio.2 * y.ratio.1)

def neg (x : Binary64) : Binary64 := signed (!x.isNegative) (x.bits.toNat % 0x8000000000000000)

/-- The value as a natural number, when it is one. -/
def toNat? (x : Binary64) : Option Nat :=
  if x.isFinite && (!x.isNegative || x.isZero) && x.ratio.1 % x.ratio.2 == 0 then
    some (x.ratio.1 / x.ratio.2)
  else none

end Binary64

end Scenarist

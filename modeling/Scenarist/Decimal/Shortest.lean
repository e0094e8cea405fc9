import Scenarist.Decimal.Binary64

/-! # The shortest decimal that reads back

A finite double stands for all real numbers that round to it. The decimal chosen for it lies
there, has as few digits as any that does, and of those is nearest to the number itself.
-/

namespace Scenarist

/-- The value `digits * 10 ^ exponent`. -/
structure Decimal where
  digits : Nat
  exponent : Int
deriving DecidableEq

namespace Decimal

/-- A positive number and the ends of the interval that rounds to it, as numerators over one
denominator. -/
structure Interval where
  low : Nat
  value : Nat
  high : Nat
  unit : Nat
  closed : Bool

/-- The interval of a finite positive number. Below a power of two the next number is only half
as far away. -/
def Interval.of (x : Binary64) : Interval :=
  let below := if x.fraction = 0 ∧ 1 < x.exponentField then 1 else 2
  let e := x.exponent - 2
  let (num, den) := if e < 0 then (1, Nat.pow 2 e.natAbs) else (Nat.pow 2 e.natAbs, 1)
  { low := (4 * x.mantissa - below) * num, value := 4 * x.mantissa * num
    high := (4 * x.mantissa + 2) * num, unit := den, closed := x.mantissa % 2 == 0 }

/-- The fraction `n / d` lies in the interval. -/
def Interval.holds (i : Interval) (n d : Nat) : Bool :=
  if i.closed then i.low * d ≤ n * i.unit && n * i.unit ≤ i.high * d
  else i.low * d < n * i.unit && n * i.unit < i.high * d

/-- The power of ten at or below `num / den`. -/
def leadingPower (num den : Nat) : Int :=
  let guess : Int := (Nat.toDigits 10 num).length - (Nat.toDigits 10 den).length
  let (p, q) := if guess < 0 then (1, Nat.pow 10 guess.natAbs) else (Nat.pow 10 guess.natAbs, 1)
  if p * den ≤ num * q then guess else guess - 1

/-- The multiple of `10 ^ power` in the interval that is nearest to its value, if there is one. -/
def Interval.onGrid? (i : Interval) (power : Int) : Option Decimal :=
  let (p, q) := if power < 0 then (1, Nat.pow 10 power.natAbs) else (Nat.pow 10 power.natAbs, 1)
  let floor := i.value * q / (i.unit * p)
  let belowHolds := i.holds (floor * p) q
  let aboveHolds := i.holds ((floor + 1) * p) q
  -- Twice the value less the sum of the two neighbours decides which one is nearer.
  let twice := 2 * i.value * q
  let middle := (2 * floor + 1) * p * i.unit
  if belowHolds && aboveHolds then
    let up := middle < twice || (middle == twice && floor % 2 == 1)
    some ⟨if up then floor + 1 else floor, power⟩
  else if belowHolds then some ⟨floor, power⟩
  else if aboveHolds then some ⟨floor + 1, power⟩
  else none

/-- The decimal without zeros at its end. -/
def normalize : Nat → Decimal → Decimal
  | 0, d => d
  | n + 1, d => if d.digits % 10 = 0 then normalize n ⟨d.digits / 10, d.exponent + 1⟩ else d

/-- The coarsest of the grids below `top` that has a point in the interval; seventeen digits
are always enough. -/
def Interval.search (i : Interval) (top : Int) : Nat → Decimal
  | 0 => (i.onGrid? (top - 16)).getD ⟨0, 0⟩
  | n + 1 => (i.onGrid? (top - (16 - (n + 1) : Int))).getD (search i top n)

/-- The shortest decimal of a finite number other than zero, whatever its sign. -/
def shortest (x : Binary64) : Decimal :=
  if x.isZero then ⟨0, 0⟩
  else
    let i := Interval.of x
    normalize 20 (i.search (leadingPower i.value i.unit) 16)

end Decimal

end Scenarist

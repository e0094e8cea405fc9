import Scenarist.Decimal.Shortest
import Scenarist.Text.Basic

/-! # Writing numbers

Two notations for doubles: one that always shows a fraction or an exponent, so that a number never
looks like an integer, and one that writes all digits out.
-/

namespace Scenarist.Decimal

/-- The digits before and after the point, with zeros filled in on either side. -/
def positional (d : Decimal) : Text × Text :=
  let digits := Text.ofNat d.digits
  if 0 ≤ d.exponent then (digits ++ Text.repeated d.exponent.natAbs '0', [])
  else if d.exponent.natAbs < digits.length then
    (digits.take (digits.length - d.exponent.natAbs),
      digits.drop (digits.length - d.exponent.natAbs))
  else ("0", Text.repeated (d.exponent.natAbs - digits.length) '0' ++ digits)

/-- One digit, a point before the others if there are any, and the power of ten. -/
def scientific (d : Decimal) : Text :=
  let digits := Text.ofNat d.digits
  let power := d.exponent + (digits.length - 1 : Nat)
  digits.take 1 ++ (if digits.length = 1 then [] else '.' :: digits.drop 1) ++
    'e' :: Text.ofInt power

/-- The magnitude of a finite number: positional from 10^-5 up to 10^16, with at least one digit
after the point, and scientific outside. -/
def fractionalMagnitude (x : Binary64) : Text :=
  let d := shortest x
  if d.digits = 0 then "0.0"
  else
    let top := d.exponent + (Text.ofNat d.digits).length
    if -5 < top && top ≤ 16 then
      let (whole, fraction) := positional d
      whole ++ '.' :: (if fraction = [] then "0" else fraction)
    else scientific d

def sign (x : Binary64) : Text := if x.isNegative then "-" else ""

/-- A finite number that never looks like an integer: `1.0`, `0.5`, `1e20`. -/
def fractional (x : Binary64) : Text := sign x ++ fractionalMagnitude x

/-- A number with all its digits: `2`, `0.5`, `100000000000000000000`, `inf`, `NaN`. -/
def plain (x : Binary64) : Text :=
  if x.isNaN then "NaN"
  else if x.isInfinite then sign x ++ "inf"
  else
    let (whole, fraction) := positional (shortest x)
    sign x ++ whole ++ (if fraction = [] then [] else '.' :: fraction)

end Scenarist.Decimal

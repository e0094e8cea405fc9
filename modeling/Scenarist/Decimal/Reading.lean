import Scenarist.Decimal.Binary64
import Scenarist.Text.Basic

/-! # Reading numbers

The decimal notation of doubles: an optional sign, then digits with an optional point among or
around them and an optional exponent, or the words for infinity and for no number in any case.
-/

namespace Scenarist.Decimal

/-- The exponent part `e`, sign, digits; an empty text is the exponent zero. -/
def exponentPart? : Text → Option Int
  | [] => some 0
  | c :: t => if c = 'e' ∨ c = 'E' then Text.toInt? 10 t else none

/-- An unsigned number. The digits are read as one natural number, shifted by the number of them
after the point. -/
def magnitude? (negative : Bool) (t : Text) : Option Binary64 :=
  let whole := t.takeWhile Char.isDigit
  let rest := t.dropWhile Char.isDigit
  let (fraction, rest) := match rest with
    | '.' :: r => (r.takeWhile Char.isDigit, r.dropWhile Char.isDigit)
    | r => ([], r)
  match Text.toNat? 10 (whole ++ fraction), exponentPart? rest with
  | some digits, some e => some (.ofDecimal negative digits (e - fraction.length))
  | _, _ => none

def unsigned? (negative : Bool) (t : Text) : Option Binary64 :=
  let word := Text.toAsciiLower t
  if word = "inf" ∨ word = "infinity" then some (.infinity negative)
  else if word = "nan" then some (.nan negative)
  else magnitude? negative t

def read? : Text → Option Binary64
  | '-' :: t => unsigned? true t
  | '+' :: t => unsigned? false t
  | t => unsigned? false t

end Scenarist.Decimal

import Scenarist.Text.Basic

/-! # Punycode

A label with any characters is written with ASCII letters, digits and dashes alone: first its own
such characters, then the places and the steps between the others, in ascending order, as numbers
of base 36. How many digits a number takes adapts to the numbers before it.
-/

namespace Scenarist.Punycode

/-- Letters are the digits up to 25, figures those up to 35. -/
def digitChar (d : Nat) : Char :=
  if d < 26 then Char.ofNat ('a'.toNat + d) else Char.ofNat ('0'.toNat + (d - 26))

def digitValue? (c : Char) : Option Nat :=
  if c.isLower then some (c.toNat - 'a'.toNat)
  else if c.isUpper then some (c.toNat - 'A'.toNat)
  else if c.isDigit then some (c.toNat - '0'.toNat + 26)
  else none

/-- A digit at `place` (36, 72, …) that is below the threshold ends a number. -/
def threshold (place bias : Nat) : Nat :=
  if place ≤ bias + 1 then 1 else if bias + 26 ≤ place then 26 else place - bias

theorem threshold_pos (place bias : Nat) : 1 ≤ threshold place bias := by
  unfold threshold
  split
  · exact Nat.le_refl 1
  · split <;> omega

theorem threshold_le (place bias : Nat) : threshold place bias ≤ 26 := by
  unfold threshold
  split
  · decide
  · split <;> omega

/-- The bias after numbers around `delta`, reduced to at most 455. -/
def biasOf (delta offset : Nat) : Nat :=
  if 455 < delta then biasOf (delta / 35) (offset + 36) else offset + 36 * delta / (delta + 38)
termination_by delta
decreasing_by exact Nat.div_lt_self (by omega) (by decide)

/-- The bias after the number `delta`, which was the first one or not, when `count` characters
stand. -/
def adapt (delta count : Nat) (first : Bool) : Nat :=
  let scaled := if first then delta / 700 else delta / 2
  biasOf (scaled + scaled / count) 0

/-! ## Encoding -/

/-- The digits of a number from `place` on. -/
def numberDigits (bias place n : Nat) : Text :=
  let t := threshold place bias
  if n < t then [digitChar n]
  else digitChar (t + (n - t) % (36 - t)) :: numberDigits bias (place + 36) ((n - t) / (36 - t))
termination_by n
decreasing_by
  have hp := threshold_pos place bias
  exact Nat.lt_of_le_of_lt (Nat.div_le_self _ _) (by omega)

/-- The digits written so far, the number to write next, and what adapts the digits. -/
structure Writing where
  written : Text
  delta : Nat
  bias : Nat
  count : Nat

/-- Passes one character of the label while the characters `n` are placed; `plain` characters stood
at the start. -/
def Writing.pass (plain n : Nat) (w : Writing) (c : Char) : Writing :=
  if c.toNat < n then { w with delta := w.delta + 1 }
  else if c.toNat = n then
    { written := w.written ++ numberDigits w.bias 36 w.delta, delta := 0,
      bias := adapt w.delta (w.count + 1) (w.count == plain), count := w.count + 1 }
  else w

/-- Places the characters of the given code points, which ascend from `n`. -/
def Writing.place (label : Text) (plain n : Nat) (w : Writing) : List Nat → Writing
  | [] => w
  | m :: r =>
    let w := label.foldl (pass plain m) { w with delta := w.delta + (m - n) * (w.count + 1) }
    place label plain (m + 1) { w with delta := w.delta + 1 } r

/-- A number in its place among ascending ones. -/
def insertOnce (n : Nat) : List Nat → List Nat
  | [] => [n]
  | m :: r => if n < m then n :: m :: r else if n = m then m :: r else m :: insertOnce n r

def isAscii (c : Char) : Bool := c.toNat < 0x80

def encode (label : Text) : Text :=
  let plain := label.filter isAscii
  let others := (label.filter (!isAscii ·)).foldr (fun c found => insertOnce c.toNat found) []
  let start : Writing := ⟨[], 0, 72, plain.length⟩
  (if plain = [] then [] else plain ++ ['-']) ++
    (start.place label plain.length 0x80 others).written

/-! ## Decoding -/

/-- Reads a number: the sum with `i`, where the next digit counts `weight`. -/
def readNumber? (bias place weight i : Nat) : Text → Option (Nat × Text)
  | [] => none
  | c :: r => do
    let d ← digitValue? c
    let i := i + d * weight
    let t := threshold place bias
    if d < t then return (i, r) else readNumber? bias (place + 36) (weight * (36 - t)) i r

/-- Puts the characters that the numbers place into the label. `i` is the place and `n` the code
point reached; `fuel` bounds the number of characters. -/
def readPlaces? (fuel : Nat) (label : Text) (n i bias : Nat) (t : Text) : Option Text :=
  match fuel, t with
  | _, [] => some label
  | 0, _ => none
  | fuel + 1, t => do
    let (reached, rest) ← readNumber? bias 36 1 i t
    let count := label.length + 1
    let n := n + reached / count
    let place := reached % count
    let c ← Text.charOfNat? n
    readPlaces? fuel (label.take place ++ c :: label.drop place) n (place + 1)
      (adapt (reached - i) count (i == 0)) rest

/-- The label that a text writes. -/
def decode? (t : Text) : Option Text :=
  let (plain, places) := match Text.splitLast? '-' t with
    | some (c :: plain, places) => (c :: plain, places)
    | _ => ([], t)
  if plain.all isAscii then readPlaces? places.length plain 0x80 0 72 places else none

end Scenarist.Punycode

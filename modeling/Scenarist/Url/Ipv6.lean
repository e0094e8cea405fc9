import Scenarist.Text.Basic

/-! # Addresses of 128 bits

Eight pieces of 16 bits in base 16 between colons. Two colons at once stand for one or more zero
pieces, at most once. The last two pieces may be written as four bytes between points.
-/

namespace Scenarist

structure Ipv6 where
  pieces : List UInt16
  length_eq : pieces.length = 8
deriving DecidableEq

namespace Ipv6

/-! ## Reading -/

/-- One to four digits. -/
def piece? (t : Text) : Option UInt16 :=
  if 4 < t.length then none else (Text.toNat? 16 t).map UInt16.ofNat

/-- A byte in base 10 without leading zeros. -/
def byte? (t : Text) : Option Nat := do
  let n ← Text.toNat? 10 t
  if n < 256 ∧ t = Text.ofNat n then return n else none

/-- Two pieces as four bytes between points. -/
def bytes? (t : Text) : Option (List UInt16) := do
  match ← (Text.splitAll '.' t).mapM byte? with
  | [a, b, c, d] => return [UInt16.ofNat (a * 256 + b), UInt16.ofNat (c * 256 + d)]
  | _ => none

/-- The pieces of the parts between colons; the last part may write two pieces. -/
def piecesOfParts? : List Text → Option (List UInt16)
  | [] => some []
  | [last] => if '.' ∈ last then bytes? last else (piece? last).map ([·])
  | part :: r => do return (← piece? part) :: (← piecesOfParts? r)

def pieces? (t : Text) : Option (List UInt16) :=
  if t = [] then some [] else piecesOfParts? (Text.splitAll ':' t)

/-- The text before and after the first two colons at once. -/
def splitGap? : Text → Option (Text × Text)
  | ':' :: ':' :: r => some ([], r)
  | c :: r => (splitGap? r).map fun (a, b) => (c :: a, b)
  | [] => none

def ofPieces? (pieces : List UInt16) : Option Ipv6 :=
  if h : pieces.length = 8 then some ⟨pieces, h⟩ else none

def ofText? (t : Text) : Option Ipv6 :=
  match splitGap? t with
  | none => if t = [] then none else (pieces? t).bind ofPieces?
  | some (before, after) => do
    let a ← if '.' ∈ before then none else pieces? before
    let b ← pieces? after
    if a.length + b.length < 8 then
      ofPieces? (a ++ List.replicate (8 - (a.length + b.length)) 0 ++ b)
    else none

/-! ## Writing -/

/-- A piece without leading zeros. -/
def pieceText (p : UInt16) : Text := Nat.toDigits 16 p.toNat

/-- How many zero pieces stand at the start. -/
def zeros (pieces : List UInt16) : Nat := (pieces.takeWhile (· == 0)).length

/-- Where the longest run of zeros begins, and how long it is; of two such runs the first. -/
def longestGap : List UInt16 → Nat × Nat
  | [] => (0, 0)
  | p :: r =>
    let (start, count) := longestGap r
    if count ≤ zeros (p :: r) then (0, zeros (p :: r)) else (start + 1, count)

def join (pieces : List UInt16) : Text := Text.join ":" (pieces.map pieceText)

/-- The longest run of two or more zero pieces is written as two colons. -/
def toText (a : Ipv6) : Text :=
  let (start, count) := longestGap a.pieces
  if count < 2 then join a.pieces
  else join (a.pieces.take start) ++ "::" ++ join (a.pieces.drop (start + count))

end Ipv6

end Scenarist

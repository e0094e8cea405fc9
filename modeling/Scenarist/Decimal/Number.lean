import Scenarist.Decimal.Notation

/-! # Numbers of data formats

A number is an integer, or a double. Integers are kept exactly while they fit 64 bits, with or
without a sign.
-/

namespace Scenarist

inductive Number where
  | integer (value : Int) (inRange : -0x8000000000000000 ≤ value ∧ value < 0x10000000000000000)
  | real (value : Binary64)
deriving DecidableEq

namespace Number

/-- The integer as a number, when it fits. -/
def ofInt? (n : Int) : Option Number :=
  if h : -0x8000000000000000 ≤ n ∧ n < 0x10000000000000000 then some (.integer n h) else none

def ofUInt32 (n : UInt32) : Number :=
  .integer n.toNat ⟨by omega, by have := n.toNat_lt; omega⟩

def ofInt32 (n : Int32) : Number :=
  .integer n.toInt ⟨by have := n.le_toInt; omega, by have := n.toInt_lt; omega⟩

def zero : Number := .integer 0 (by decide)

/-- The integer that the number is, if it is one. -/
def toInt? : Number → Option Int
  | .integer n _ => some n
  | .real _ => none

/-- The number as a word of 32 bits. -/
def toUInt32? (n : Number) : Option UInt32 :=
  n.toInt?.bind fun k => if 0 ≤ k ∧ k < 0x100000000 then some (UInt32.ofNat k.toNat) else none

/-- The number as a signed word of 32 bits. -/
def toInt32? (n : Number) : Option Int32 :=
  n.toInt?.bind fun k => if -0x80000000 ≤ k ∧ k < 0x80000000 then some (Int32.ofInt k) else none

end Number

end Scenarist

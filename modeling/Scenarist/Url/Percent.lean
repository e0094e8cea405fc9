import Scenarist.Text.Basic

/-! # Percent encoding

A character outside a part's alphabet is written as a percent sign and two digits for each of its
bytes.
-/

namespace Scenarist.Percent

/-- A digit of base 16 as a capital letter or a figure. -/
def digit (n : Nat) : Char := Char.ofNat (if n < 10 then '0'.toNat + n else 'A'.toNat + (n - 10))

def encodeByte (b : UInt8) : Text := ['%', digit (b.toNat / 16), digit (b.toNat % 16)]

def encodeChar (c : Char) : Text := (String.utf8EncodeChar c).flatMap encodeByte

/-- The text with every character of the set `escaped` written by its bytes. -/
def encode (escaped : Char → Bool) (t : Text) : Text :=
  t.flatMap fun c => if escaped c then encodeChar c else [c]

/-! ## Sets of characters -/

/-- Characters that cannot be seen or are not ASCII. -/
def isControl (c : Char) : Bool := c.toNat < 0x20 || 0x7E < c.toNat

def inFragment (c : Char) : Bool := isControl c || c ∈ [' ', '"', '<', '>', '\x60']

def inPath (c : Char) : Bool := inFragment c || c ∈ ['#', '?', '\x7b', '\x7d']

def inQuery (c : Char) : Bool := isControl c || c ∈ [' ', '"', '#', '<', '>']

/-- In queries of web addresses a single quote is escaped too. -/
def inWebQuery (c : Char) : Bool := inQuery c || c == '\''

/-! ## Decoding -/

/-- The bytes that a text writes; a percent sign without two digits stands for itself. -/
def bytes : Text → List UInt8
  | '%' :: a :: b :: r =>
    match Text.toNat? 16 [a, b] with
    | some n => UInt8.ofNat n :: bytes r
    | none => String.utf8EncodeChar '%' ++ bytes (a :: b :: r)
  | c :: r => String.utf8EncodeChar c ++ bytes r
  | [] => []

/-- The text that an encoded text writes, if its bytes are one. -/
def decode? (t : Text) : Option Text :=
  if '%' ∈ t then (String.fromUTF8? ⟨(bytes t).toArray⟩).map String.toList else some t

end Scenarist.Percent

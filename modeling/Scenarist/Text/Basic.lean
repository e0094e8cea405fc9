/-! # Text

Text is a list of characters, so that readers recurse on it and laws are stated on it
directly. A string literal stands for the list of its characters.
-/

namespace Scenarist

abbrev Text := List Char

instance : Coe String Text := ⟨String.toList⟩

namespace Text

/-- The text as a string, for output. -/
def toStr (t : Text) : String := String.ofList t

/-- The number of bytes that the text takes in UTF-8. -/
def utf8Length : Text → Nat
  | [] => 0
  | c :: r => c.utf8Size + utf8Length r

def isOneOf (t : Text) (texts : List Text) : Bool := texts.any fun u => t == u

/-- `needle` occurs somewhere in the text. -/
def occursIn (needle : Text) : Text → Bool
  | [] => needle.isEmpty
  | c :: r => needle.isPrefixOf (c :: r) || occursIn needle r

/-- What is left of the text when it begins with `start`. -/
def dropStart? : (start : Text) → Text → Option Text
  | [], t => some t
  | _ :: _, [] => none
  | c :: start, d :: t => if c = d then dropStart? start t else none

/-- What is left of the text when it ends with `tail`. -/
def dropEnd? (tail t : Text) : Option Text :=
  (dropStart? tail.reverse t.reverse).map List.reverse

/-- The text before and after the first `c`. -/
def splitFirst? (c : Char) : Text → Option (Text × Text)
  | [] => none
  | d :: r => if d = c then some ([], r) else (splitFirst? c r).map fun (a, b) => (d :: a, b)

/-- The text before and after the last `c`. -/
def splitLast? (c : Char) : Text → Option (Text × Text)
  | [] => none
  | d :: r =>
    match splitLast? c r with
    | some (a, b) => some (d :: a, b)
    | none => if d = c then some ([], r) else none

/-- The pieces of the text between the places where `c` stands: one more than there are `c`. -/
def splitAll (c : Char) : Text → List Text
  | [] => [[]]
  | d :: r =>
    if d = c then [] :: splitAll c r
    else match splitAll c r with
      | [] => [[d]]
      | piece :: pieces => (d :: piece) :: pieces

/-- The pieces with `sep` between them. -/
def join (sep : Text) : List Text → Text
  | [] => []
  | [piece] => piece
  | piece :: pieces => piece ++ sep ++ join sep pieces

/-- Letters A to Z become small; no other character changes. -/
def toAsciiLower (t : Text) : Text := t.map Char.toLower

/-- The decimal digits of a natural number. -/
def ofNat (n : Nat) : Text := Nat.toDigits 10 n

/-- The decimal digits of an integer, after a minus sign when it is negative. -/
def ofInt : Int → Text
  | .ofNat n => ofNat n
  | .negSucc n => '-' :: ofNat (n + 1)

/-- The value of a digit in bases up to 16. -/
def digitValue? (c : Char) : Option Nat :=
  if '0' ≤ c ∧ c ≤ '9' then some (c.toNat - '0'.toNat)
  else if 'a' ≤ c ∧ c ≤ 'f' then some (c.toNat - 'a'.toNat + 10)
  else if 'A' ≤ c ∧ c ≤ 'F' then some (c.toNat - 'A'.toNat + 10)
  else none

/-- The value of `c` as a digit of `base`. -/
def digitOf? (base : Nat) (c : Char) : Option Nat :=
  (digitValue? c).filter (· < base)

/-- The number that the digits write in `base`; `none` when a character is no digit. -/
def digitsValue? (base : Nat) (t : Text) : Option Nat :=
  t.foldl (fun acc c => acc.bind fun n => (digitOf? base c).map (n * base + ·)) (some 0)

/-- The natural number that a non-empty run of digits writes. -/
def toNat? (base : Nat) : Text → Option Nat
  | [] => none
  | t => digitsValue? base t

/-- An unsigned number with an optional plus sign. -/
def toUnsigned? (base : Nat) : Text → Option Nat
  | '+' :: t => toNat? base t
  | t => toNat? base t

/-- A number with an optional sign. -/
def toInt? (base : Nat) : Text → Option Int
  | '-' :: t => (toNat? base t).map fun n => -(n : Int)
  | '+' :: t => (toNat? base t).map fun n => (n : Int)
  | t => (toNat? base t).map fun n => (n : Int)

/-- The character with this code point, when it is one. -/
def charOfNat? (n : Nat) : Option Char :=
  if h : n.isValidChar then some (Char.ofNatAux n h) else none

theorem charOfNat?_toNat (c : Char) : charOfNat? c.toNat = some c := dif_pos c.valid

/-- `n` copies of `c`. -/
def repeated (n : Nat) (c : Char) : Text := List.replicate n c

/-- The lines of a text: they end at a line feed, and a carriage return before it belongs to
the line end. What follows the last line feed is a line unless it is empty. -/
def lines (t : Text) : List Text :=
  let pieces := splitAll '\n' t
  pieces.dropLast.map dropReturn ++ pieces.getLast?.toList.filter (· ≠ [])
where
  dropReturn (line : Text) : Text :=
    if line.getLast? = some '\r' then line.dropLast else line

/-! ## Blanks -/

/-- The characters with the property `White_Space`. -/
def isBlank (c : Char) : Bool :=
  let n := c.toNat
  (9 ≤ n && n ≤ 13) || n == 0x20 || n == 0x85 || n == 0xA0 || n == 0x1680 ||
    (0x2000 ≤ n && n ≤ 0x200A) || n == 0x2028 || n == 0x2029 || n == 0x202F || n == 0x205F ||
    n == 0x3000

def trimStart (t : Text) : Text := t.dropWhile isBlank

def trimEnd (t : Text) : Text := (t.reverse.dropWhile isBlank).reverse

/-- The text without the blank characters at its two ends. -/
def trim (t : Text) : Text := trimEnd (trimStart t)

end Text

end Scenarist

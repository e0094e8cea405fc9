import Scenarist.Json.Basic
import Scenarist.Json.Fault
import Scenarist.Decimal.Binary64

/-! # Strings, numbers and words of JSON

Readers take the text that is left and give back what they read and the text after it. A string
that is only skipped need not pair its surrogates, and a number that is only skipped may be out of
range.
-/

namespace Scenarist.Json

/-- A fault at the first character of `t`. -/
def faultAt {α : Type} (cause : Cause) (t : Text) : Except Fault α :=
  .error ⟨cause, t.utf8Length⟩

/-- A fault one byte into `t`, or at its end. -/
def faultInto {α : Type} (cause : Cause) (t : Text) : Except Fault α :=
  .error ⟨cause, t.utf8Length - 1⟩

/-- Blank, tab, line feed and carriage return. -/
def isSpace (c : Char) : Bool := c == ' ' || c == '\n' || c == '\t' || c == '\r'

def skipSpace (t : Text) : Text := t.dropWhile isSpace

/-! ## Strings -/

/-- The four digits of an escape. They are taken as four bytes, whatever these hold. -/
def fourDigits (t : Text) : Except Fault Nat :=
  if t.utf8Length < 4 then faultAt .endInString []
  else match t with
    | a :: b :: c :: d :: _ =>
      match Text.toNat? 16 [a, b, c, d] with
      | some n => .ok n
      | none => .error ⟨.invalidEscape, t.utf8Length - 4⟩
    | _ => .error ⟨.invalidEscape, t.utf8Length - 4⟩

/-- The character of an escape written by one letter. -/
def letterEscape? : Char → Option Char
  | '"' => some '"'
  | '\\' => some '\\'
  | '/' => some '/'
  | 'b' => some '\x08'
  | 'f' => some '\x0c'
  | 'n' => some '\n'
  | 'r' => some '\r'
  | 't' => some '\t'
  | _ => none

/-- The second half of a character that two escapes write. `t` is what follows the first. -/
def lowSurrogate (high : Nat) (t : Text) : Except Fault Char :=
  match t with
  | [] => faultAt .endInString []
  | '\\' :: [] => faultAt .endInString []
  | '\\' :: 'u' :: r => do
    let low ← fourDigits r
    if 0xDC00 ≤ low ∧ low ≤ 0xDFFF then
      return Char.ofNat ((high - 0xD800) * 0x400 + (low - 0xDC00) + 0x10000)
    else faultAt .loneSurrogate (r.drop 4)
  | '\\' :: r => faultInto .unfinishedSurrogate r
  | _ => faultInto .unfinishedSurrogate t

/-- The character that an escape writes and the number of characters it takes. `t` is what
follows the backslash. -/
def escape (t : Text) : Except Fault (Char × Nat) :=
  match t with
  | [] => faultAt .endInString []
  | 'u' :: r => do
    let n ← fourDigits r
    if 0xDC00 ≤ n ∧ n ≤ 0xDFFF then faultAt .loneSurrogate (r.drop 4)
    else if 0xD800 ≤ n ∧ n ≤ 0xDBFF then return (← lowSurrogate n (r.drop 4), 11)
    else return (Char.ofNat n, 5)
  | c :: _ =>
    match letterEscape? c with
    | some d => .ok (d, 1)
    | none => faultInto .invalidEscape t

/-- The string up to its closing quote, after `skip` characters that belong to an escape. -/
def stringBody : (skip : Nat) → Text → Except Fault (Text × Text)
  | _, [] => faultAt .endInString []
  | n + 1, _ :: r => stringBody n r
  | 0, c :: r =>
    if c = '"' then .ok ([], r)
    else if c = '\\' then do
      let (d, n) ← escape r
      let (t, rest) ← stringBody n r
      return (d :: t, rest)
    else if c < ' ' then faultAt .controlCharacter r
    else do
      let (t, rest) ← stringBody 0 r
      return (c :: t, rest)

/-- The number of characters of an escape that is only skipped. -/
def skipEscape (t : Text) : Except Fault Nat :=
  match t with
  | [] => faultAt .endInString []
  | 'u' :: r => do
    let _ ← fourDigits r
    return 5
  | c :: _ => if (letterEscape? c).isSome then .ok 1 else faultInto .invalidEscape t

/-- The text after a string that is only skipped. -/
def skipStringBody : (skip : Nat) → Text → Except Fault Text
  | _, [] => faultAt .endInString []
  | n + 1, _ :: r => skipStringBody n r
  | 0, c :: r =>
    if c = '"' then .ok r
    else if c = '\\' then do skipStringBody (← skipEscape r) r
    else if c < ' ' then faultAt .controlCharacter (c :: r)
    else skipStringBody 0 r

/-! ## Numbers -/

/-- Digits taken into a significand while it fits 64 bits, and how many were taken. -/
def absorb (significand : Nat) : Text → Nat × Nat
  | [] => (significand, 0)
  | d :: r =>
    let next := significand * 10 + (d.toNat - '0'.toNat)
    if next < 0x10000000000000000 then
      let (s, k) := absorb next r
      (s, k + 1)
    else (significand, 0)

/-- A double divided or multiplied by a power of ten that is a double itself; far below one this
is done in steps of 308 places. -/
def scaleBy : (steps : Nat) → Binary64 → Int → Option Binary64
  | 0, x, _ => some x
  | n + 1, x, e =>
    if e.natAbs ≤ 308 then
      let power := Binary64.ofDecimal false 1 e.natAbs
      if 0 ≤ e then (if (x.mul power).isInfinite then none else some (x.mul power))
      else some (x.div power)
    else if x.isZero then some x
    else if 0 ≤ e then none
    else scaleBy n (x.div (Binary64.ofDecimal false 1 308)) (e + 308)

/-- The double for `significand * 10 ^ e`: the significand is rounded first, then scaled. Three
steps bring any significand down to zero. -/
def assemble (negative : Bool) (significand : Nat) (e : Int) (rest : Text) :
    Except Fault (Number × Text) :=
  match scaleBy 4 (Binary64.ofNat significand) e with
  | some x => .ok (.real (if negative then x.neg else x), rest)
  | none => faultAt .numberOutOfRange rest

/-- The exponent digits as a number below `2 ^ 31`, or the text after the digit that made it too
large. -/
def exponentDigits (acc : Nat) : Text → Except Text Nat
  | [] => .ok acc
  | d :: r =>
    let next := acc * 10 + (d.toNat - '0'.toNat)
    if next < 0x80000000 then exponentDigits next r else .error r

/-- The rest of a number from its exponent letter on. -/
def exponentTail (negative : Bool) (significand : Nat) (e : Int) (t : Text) :
    Except Fault (Number × Text) :=
  let (down, digits) := match t with
    | '+' :: r => (false, r)
    | '-' :: r => (true, r)
    | r => (false, r)
  let run := digits.takeWhile Char.isDigit
  let rest := digits.dropWhile Char.isDigit
  if run = [] then
    if digits = [] then faultAt .endInValue [] else faultInto .invalidNumber digits
  else match exponentDigits 0 run with
    | .ok k => assemble negative significand (if down then e - k else e + k) rest
    | .error after =>
      if significand ≠ 0 ∧ !down then faultAt .numberOutOfRange (after ++ rest)
      else .ok (.real (.zero negative), rest)

/-- The rest of a number from its point on. Digits that no longer fit are dropped. -/
def fractionTail (negative : Bool) (significand : Nat) (e : Int) (t : Text) :
    Except Fault (Number × Text) :=
  let run := t.takeWhile Char.isDigit
  let rest := t.dropWhile Char.isDigit
  if run = [] then
    if t = [] then faultAt .endInValue [] else faultInto .invalidNumber t
  else
    let (s, k) := absorb significand run
    match rest with
    | c :: r =>
      if c = 'e' ∨ c = 'E' then exponentTail negative s (e - k) r
      else assemble negative s (e - k) rest
    | [] => assemble negative s (e - k) rest

/-- An integer without fraction and exponent. A negative one outside 64 bits, and minus zero,
become doubles. -/
def wholeNumber (negative : Bool) (n : Nat) : Number :=
  let value : Int := if negative then -(n : Int) else n
  match Number.ofInt? value with
  | some k => if negative ∧ n = 0 then .real (.zero true) else k
  | none => .real (if negative then (Binary64.ofNat n).neg else Binary64.ofNat n)

/-- A number after its minus sign, if it had one. -/
def numberBody (negative : Bool) (t : Text) : Except Fault (Number × Text) :=
  let run := t.takeWhile Char.isDigit
  let rest := t.dropWhile Char.isDigit
  match t with
  | [] => faultAt .endInValue []
  | c :: after =>
    if run = [] then faultInto .invalidNumber t
    else if c = '0' ∧ 1 < run.length then faultInto .invalidNumber after
    else
      let (s, k) := absorb 0 run
      let dropped : Int := (run.length - k : Nat)
      match rest with
      | '.' :: r => fractionTail negative s dropped r
      | 'e' :: r | 'E' :: r => exponentTail negative s dropped r
      | _ =>
        if dropped = 0 then .ok (wholeNumber negative s, rest)
        else assemble negative s dropped rest

/-- The exponent of a number that is only skipped. -/
def skipExponent (t : Text) : Except Fault Text :=
  let digits := match t with
    | '+' :: r | '-' :: r => r
    | r => r
  if digits.takeWhile Char.isDigit = [] then
    faultInto .invalidNumber digits
  else .ok (digits.dropWhile Char.isDigit)

/-- The fraction of a number that is only skipped. -/
def skipFraction (t : Text) : Except Fault Text :=
  let rest := t.dropWhile Char.isDigit
  if t.takeWhile Char.isDigit = [] then faultInto .invalidNumber t
  else match rest with
    | 'e' :: r | 'E' :: r => skipExponent r
    | _ => .ok rest

/-- The text after a number that is only skipped, its minus sign read. -/
def skipNumberBody (t : Text) : Except Fault Text :=
  let run := t.takeWhile Char.isDigit
  let rest := t.dropWhile Char.isDigit
  match t with
  | [] => faultAt .invalidNumber []
  | c :: after =>
    if run = [] then faultInto .invalidNumber t
    else if c = '0' ∧ 1 < run.length then faultInto .invalidNumber after
    else match rest with
      | '.' :: r => skipFraction r
      | 'e' :: r | 'E' :: r => skipExponent r
      | _ => .ok rest

/-! ## Words -/

/-- The rest of a word whose first letter was read. -/
def word : (letters : Text) → Text → Except Fault Text
  | [], t => .ok t
  | _ :: _, [] => faultAt .endInValue []
  | c :: letters, d :: t => if c = d then word letters t else faultInto .expectedIdent (d :: t)

end Scenarist.Json

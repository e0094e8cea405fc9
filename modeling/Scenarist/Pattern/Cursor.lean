import Scenarist.Pattern.Ast
import Scenarist.Text.Basic
import Scenarist.Unicode.Word

/-! # Reading parts of a pattern

A cursor stands at a place in the pattern. While blanks are ignored, blanks and comments may stand
between the characters of most constructs.
-/

namespace Scenarist.Pattern

structure Cursor where
  rest : Text
  /-- The number of characters before the cursor. -/
  pos : Nat
  /-- Blanks and comments are passed over. -/
  ignoreSpace : Bool

namespace Cursor

def atEnd (c : Cursor) : Bool := c.rest.isEmpty

/-- The next character; a null character stands for the end. -/
def char (c : Cursor) : Char := c.rest.headD '\x00'

def isAt (d : Char) (c : Cursor) : Bool := c.rest.head? == some d

def bump (c : Cursor) : Cursor :=
  match c.rest with
  | _ :: r => { c with rest := r, pos := c.pos + 1 }
  | [] => c

/-- The characters of blanks and comments at the beginning. -/
def spaceLength : (comment : Bool) → Text → Nat
  | _, [] => 0
  | true, d :: r => 1 + spaceLength (d != '\n') r
  | false, d :: r =>
    if Text.isBlank d then 1 + spaceLength false r
    else if d = '#' then 1 + spaceLength true r
    else 0

def skipSpace (c : Cursor) : Cursor :=
  if c.ignoreSpace then
    let n := spaceLength false c.rest
    { c with rest := c.rest.drop n, pos := c.pos + n }
  else c

/-- The place behind the next character and the blanks that follow it. -/
def bumpSpace (c : Cursor) : Cursor := c.bump.skipSpace

/-- The place behind `word`, if it stands here. -/
def take? (word : Text) (c : Cursor) : Option Cursor :=
  (Text.dropStart? word c.rest).map fun r => { c with rest := r, pos := c.pos + word.length }

/-- The character behind the next one. -/
def peek (c : Cursor) : Option Char := (c.rest.drop 1).head?

/-- The character behind the next one, past blanks and one comment sign if those are ignored. -/
def peekSpace (c : Cursor) : Option Char :=
  if c.ignoreSpace then
    let behind := c.rest.drop 1
    let blank := behind.dropWhile Text.isBlank
    let found := match blank with
      | '#' :: r => r.dropWhile Text.isBlank
      | r => r
    match found with
    | d :: _ => some d
    | [] => behind.head?
  else c.peek

/-- A fault at the next character. -/
def failHere {α : Type} (cause : Cause) (c : Cursor) : Except Fault α :=
  fail cause c.pos (if c.atEnd then c.pos else c.pos + 1)

/-- A fault before the next character. -/
def failBefore {α : Type} (cause : Cause) (c : Cursor) : Except Fault α := fail cause c.pos c.pos

/-- A fault from `start` up to here. -/
def failSince {α : Type} (cause : Cause) (start : Nat) (c : Cursor) : Except Fault α :=
  fail cause start c.pos

/-! ## Numbers -/

/-- The characters that `accept` takes, with blanks between them. Every round takes a character. -/
def takeAll (accept : Char → Bool) : (fuel : Nat) → Cursor → Text × Cursor
  | 0, c => ([], c)
  | n + 1, c =>
    match c.rest with
    | d :: _ =>
      if accept d then
        let (t, c) := takeAll accept n c.bumpSpace
        (d :: t, c)
      else ([], c)
    | [] => ([], c)

/-- The number of a repetition, between blanks, and the place behind it. It must fit 32 bits. -/
def decimal (c : Cursor) : Except Fault Nat × Cursor :=
  let (_, start) := takeAll Text.isBlank c.rest.length { c with ignoreSpace := false }
  let start := { start with ignoreSpace := c.ignoreSpace }
  let (digits, stop) := takeAll Char.isDigit start.rest.length start
  let (_, after) := takeAll Text.isBlank stop.rest.length stop
  let number := match Text.toNat? 10 digits with
    | none => fail .countEmpty start.pos stop.pos
    | some n => if n < 0x100000000 then .ok n else fail .decimalTooLarge start.pos stop.pos
  (number, after)

/-! ## Escapes -/

/-- Characters with a meaning of their own, which a backslash takes away. -/
def isMeta (c : Char) : Bool :=
  c ∈ ['\\', '.', '+', '*', '?', '(', ')', '|', '[', ']', '\x7b', '\x7d', '^', '$', '#', '&', '-',
    '~']

/-- Any ASCII character but letters, digits and angle brackets may stand behind a backslash. -/
def isEscapable (c : Char) : Bool :=
  isMeta c || (c.toNat < 128 && !c.isAlphanum && c != '<' && c != '>')

def isHexDigit (c : Char) : Bool := (Text.digitValue? c).isSome

/-- The character that hexadecimal digits write. -/
def hexChar? (digits : Text) : Option Char :=
  (Text.toNat? 16 digits).bind Text.charOfNat?

/-- A given number of hexadecimal digits. -/
def hexDigits : (count : Nat) → (first : Bool) → Cursor → Except Fault (Text × Cursor)
  | 0, _, c => .ok ([], c.bumpSpace)
  | n + 1, first, c =>
    let c := if first then c else c.bumpSpace
    if c.atEnd then c.failBefore .escapeUnfinished
    else if !isHexDigit c.char then c.failHere .hexDigit
    else do
      let (t, rest) ← hexDigits n false c
      return (c.char :: t, rest)

/-- Hexadecimal digits up to a closing brace; the cursor stands before the brace or a digit. -/
def hexBraced : (fuel : Nat) → Cursor → Except Fault (Text × Cursor)
  | 0, c => .ok ([], c)
  | n + 1, c =>
    let next := c.bumpSpace
    if next.atEnd || next.isAt '\x7d' then .ok ([], next)
    else if !isHexDigit next.char then next.failHere .hexDigit
    else do
      let (t, rest) ← hexBraced n next
      return (next.char :: t, rest)

/-- A character by its code point; the cursor stands at the letter behind the backslash. -/
def hexLiteral (start : Nat) (c : Cursor) : Except Fault (Literal × Cursor) := do
  let count := if c.char = 'x' then 2 else if c.char = 'u' then 4 else 8
  let first := c.bumpSpace
  if first.atEnd then first.failBefore .escapeUnfinished
  else if first.isAt '\x7b' then
    let (digits, stop) ← hexBraced first.rest.length first
    if stop.atEnd then stop.failSince .escapeUnfinished first.pos
    else
      let after := stop.bumpSpace
      if digits = [] then after.failSince .hexEmpty first.pos
      else match hexChar? digits with
        | none => fail .hexNoCharacter (first.pos + 1) stop.pos
        | some d => return (⟨d, false, ⟨start, after.pos⟩⟩, after)
  else
    let (digits, after) ← hexDigits count true first
    match hexChar? digits with
    | none => fail .hexNoCharacter first.pos after.pos
    | some d => return (⟨d, count == 2, ⟨start, after.pos⟩⟩, after)

/-- The characters up to a closing brace, whatever they are. -/
def propertyText : (fuel : Nat) → Cursor → Text × Cursor
  | 0, c => ([], c)
  | n + 1, c =>
    let next := c.bumpSpace
    if next.atEnd || next.isAt '\x7d' then ([], next)
    else
      let (t, rest) := propertyText n next
      (next.char :: t, rest)

/-- The text before and after the first `!=`. -/
def splitUnequal? : Text → Option (Text × Text)
  | [] => none
  | '!' :: '=' :: r => some ([], r)
  | d :: r => (splitUnequal? r).map fun (a, b) => (d :: a, b)

/-- A name, or a name and a value with `!=`, `:` or `=` between them. -/
def propertyName (t : Text) : PropertyName :=
  match (splitUnequal? t).or ((Text.splitFirst? ':' t).or (Text.splitFirst? '=' t)) with
  | some (name, value) => .valued name value
  | none => .named t

/-- A class by a property; the cursor stands at the letter behind the backslash. -/
def propertyClass (start : Nat) (c : Cursor) : Except Fault (PropertyClass × Cursor) :=
  let negated := c.isAt 'P'
  let first := c.bumpSpace
  if first.atEnd then first.failBefore .escapeUnfinished
  else if first.isAt '\x7b' then
    let (name, stop) := propertyText first.rest.length first
    if stop.atEnd then stop.failBefore .escapeUnfinished
    else .ok (⟨negated, propertyName name, ⟨start, stop.bump.pos⟩⟩, stop.bump)
  else if first.isAt '\\' then first.failHere .propertyNotation
  else
    let after := first.bumpSpace
    .ok (⟨negated, .letter first.char, ⟨start, after.pos⟩⟩, after)

/-- The words of special word boundaries. -/
def boundaryWord? (t : Text) : Option Assertion :=
  if t = "start" then some .wordStart
  else if t = "end" then some .wordEnd
  else if t = "start-half" then some .noWordBefore
  else if t = "end-half" then some .noWordAfter
  else none

/-- A word in braces behind a word boundary. Braces that hold none are the count of a repetition. -/
def boundary (start : Nat) (c : Cursor) : Except Fault (Assertion × Cursor) :=
  let isWordChar (d : Char) : Bool := d.isAlpha || d == '-'
  if !c.isAt '\x7b' then .ok (.wordBoundary, c)
  else
    let first := c.bumpSpace
    if first.atEnd then first.failSince .boundaryOrCountUnfinished start
    else if !isWordChar first.char then .ok (.wordBoundary, c)
    else
      let (word, stop) := takeAll isWordChar first.rest.length first
      if !stop.isAt '\x7d' then stop.failSince .boundaryUnclosed c.pos
      else match boundaryWord? word with
        | some kind => .ok (kind, stop.bump)
        | none => fail .boundaryUnknown first.pos stop.pos

/-- The control character that a letter stands for behind a backslash. -/
def controlLetter? : Char → Option Char
  | 'a' => some '\x07'
  | 'f' => some '\x0c'
  | 't' => some '\t'
  | 'n' => some '\n'
  | 'r' => some '\r'
  | 'v' => some '\x0b'
  | _ => none

/-- The assertion that a character stands for behind a backslash. -/
def assertionLetter? : Char → Option Assertion
  | 'A' => some .textStart
  | 'z' => some .textEnd
  | 'B' => some .noWordBoundary
  | '<' => some .wordStart
  | '>' => some .wordEnd
  | _ => none

/-- The class that a letter stands for behind a backslash, and whether it is negated. -/
def shortClass? : Char → Option (ShortClassKind × Bool)
  | 'd' => some (.digit, false)
  | 'D' => some (.digit, true)
  | 's' => some (.space, false)
  | 'S' => some (.space, true)
  | 'w' => some (.word, false)
  | 'W' => some (.word, true)
  | _ => none

/-- An escape; the cursor stands at the backslash. -/
def escape (c : Cursor) : Except Fault (Ast × Cursor) := do
  let start := c.pos
  let letter := c.bump
  if letter.atEnd then letter.failSince .escapeUnfinished start
  else
    let d := letter.char
    let after := letter.bump
    let span : Span := ⟨start, after.pos⟩
    if d.isDigit then fail .backreference start after.pos
    else if d = 'x' ∨ d = 'u' ∨ d = 'U' then
      let (l, rest) ← hexLiteral start letter
      return (.literal l, rest)
    else if d = 'p' ∨ d = 'P' then
      let (p, rest) ← propertyClass start letter
      return (.property p, rest)
    else if d = 'b' then
      let (kind, rest) ← boundary start after
      return (.assertion ⟨start, rest.pos⟩ kind, rest)
    else if isEscapable d then return (.literal ⟨d, false, span⟩, after)
    else match shortClass? d, controlLetter? d, assertionLetter? d with
      | some (kind, negated), _, _ => return (.short ⟨negated, kind, span⟩, after)
      | _, some control, _ => return (.literal ⟨control, false, span⟩, after)
      | _, _, some kind => return (.assertion span kind, after)
      | _, _, _ => fail .escapeUnknown start after.pos

/-- A single character, escape or assertion. -/
def primitive (c : Cursor) : Except Fault (Ast × Cursor) :=
  let after := c.bump
  let span : Span := ⟨c.pos, after.pos⟩
  if c.isAt '\\' then c.escape
  else if c.isAt '.' then .ok (.dot span, after)
  else if c.isAt '^' then .ok (.assertion span .lineStart, after)
  else if c.isAt '$' then .ok (.assertion span .lineEnd, after)
  else .ok (.literal ⟨c.char, false, span⟩, after)

end Cursor

end Scenarist.Pattern

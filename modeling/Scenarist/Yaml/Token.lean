import Scenarist.Yaml.ScalarText

/-! # Tokens

The marks and names of a document. Block marks are not written in the text: they stand where the
indentation opens and closes collections. Readers take the spots behind the first character of a
token and give back the spots behind the token.
-/

namespace Scenarist.Yaml

/-- How a scalar is written. -/
inductive Style where
  | plain
  | quoted
  | literal
  | folded
deriving DecidableEq

inductive Token where
  | version
  /-- Tags that begin with `handle` stand for tags that begin with `start`. -/
  | tagHandle (handle start : Text)
  | documentStart
  | documentEnd
  | blockSequence
  | blockMapping
  | blockEnd
  | openSequence
  | closeSequence
  | openMapping
  | closeMapping
  | entry
  | comma
  | key
  | value
  | alias (name : Text)
  | anchor (name : Text)
  | tag (handle suffix : Text)
  | scalar (style : Style) (text : Text)
deriving DecidableEq

namespace Token

/-- Letters, digits, underscore and dash. -/
def isNameChar (c : Char) : Bool := c.isAlphanum || c == '_' || c == '-'

/-- The characters up to the first that `accept` refuses. -/
def takeName (accept : Char → Bool) (spots : List Spot) : Text × List Spot :=
  let (run, rest) := spots.span fun s => accept s.char
  (run.map (·.char), rest)

/-! ## Anchors and aliases -/

/-- A name that a gap or an indicator follows. -/
def anchorName? (spots : List Spot) : Option (Text × List Spot) :=
  let (name, rest) := takeName isNameChar spots
  let next := charAt 0 rest
  if name ≠ [] ∧ (isGap next || next ∈ ['?', ':', ',', ']', '\x7d', '%', '@', '`']) then
    some (name, rest)
  else none

/-! ## Tags -/

/-- The characters that a tag may hold as they are. Between angle brackets it may hold more. -/
def isTagChar (bracketed : Bool) (c : Char) : Bool :=
  isNameChar c || c ∈
    [';', '/', '?', ':', '@', '&', '=', '+', '$', '.', '!', '~', '*', '\'', '(', ')'] ||
    (bracketed && (c == ',' || c == '[' || c == ']'))

/-- A byte written as two digits behind a percent sign. -/
def percentByte? (spots : List Spot) : Option Nat :=
  if charAt 0 spots = '%' then Text.toNat? 16 [charAt 1 spots, charAt 2 spots] else none

/-- The low bits of a byte that continues a character. -/
def continuation? (spots : List Spot) : Option Nat := do
  let byte ← percentByte? spots
  if 0x80 ≤ byte ∧ byte < 0xC0 then return byte - 0x80 else none

/-- The character whose bytes are written behind percent signs, and its number of bytes. -/
def percentChar? (spots : List Spot) : Option (Char × Nat) := do
  let lead ← percentByte? spots
  let bits := [(lead, 0x80, 1), (lead - 0xC0, 0x20, 2), (lead - 0xE0, 0x10, 3), (lead - 0xF0, 8, 4)]
  let (first, _, count) ← bits.find? fun (rest, bound, _) => rest < bound
  if 0x80 ≤ lead ∧ lead < 0xC0 then none
  else
    let tail ← (List.range (count - 1)).mapM fun i => continuation? (spots.drop (3 * (i + 1)))
    let c ← Text.charOfNat? (tail.foldl (fun n b => n * 0x40 + b) first)
    if c.utf8Size = count then return (c, count) else none

/-- The rest of a tag, after `skip` spots that belong to an escape. -/
def tagText? (bracketed : Bool) : (skip : Nat) → List Spot → Option (Text × List Spot)
  | _, [] => some ([], [])
  | n + 1, _ :: r => tagText? bracketed n r
  | 0, s :: r =>
    if isTagChar bracketed s.char then do
      let (t, rest) ← tagText? bracketed 0 r
      return (s.char :: t, rest)
    else if s.char = '%' then do
      let (c, count) ← percentChar? (s :: r)
      let (t, rest) ← tagText? bracketed (3 * count - 1) r
      return (c :: t, rest)
    else some ([], s :: r)

/-- A handle between exclamation marks, or as much of it as there is. -/
def handleText (spots : List Spot) : Text × List Spot :=
  let (name, rest) := takeName isNameChar spots
  if charAt 0 rest = '!' then ('!' :: name ++ ['!'], rest.drop 1) else ('!' :: name, rest)

/-- A tag behind its exclamation mark: whole between angle brackets, behind a handle, or behind
the exclamation mark alone, which is then the handle unless nothing follows it. -/
def tagToken? (inFlow : Bool) (spots : List Spot) : Option (Token × List Spot) := do
  let (handle, suffix, rest) ←
    if charAt 0 spots = '<' then do
      let (suffix, rest) ← tagText? true 0 (spots.drop 1)
      if suffix ≠ [] ∧ charAt 0 rest = '>' then some (([] : Text), suffix, rest.drop 1) else none
    else
      let (handle, rest) := handleText spots
      if 2 ≤ handle.length ∧ handle.getLast? = some '!' then do
        let (suffix, rest) ← tagText? false 0 rest
        if suffix ≠ [] then some (handle, suffix, rest) else none
      else do
        let (more, rest) ← tagText? false 0 rest
        let suffix := handle.drop 1 ++ more
        some (if suffix = [] then ([], ['!'], rest) else (['!'], suffix, rest))
  if isGap (charAt 0 rest) || (inFlow && charAt 0 rest == ',') then
    some (.tag handle suffix, rest)
  else none

/-! ## Directives -/

def skipBlanks (spots : List Spot) : List Spot := spots.dropWhile fun s => isBlank s.char

/-- One to nine digits. -/
def versionNumber? (spots : List Spot) : Option (Nat × List Spot) := do
  let (digits, rest) := takeName Char.isDigit spots
  if digits.length ≤ 9 then return (← Text.toNat? 10 digits, rest) else none

/-- The version `1.1` or `1.2`. -/
def versionToken? (spots : List Spot) : Option (Token × List Spot) := do
  let (major, rest) ← versionNumber? (skipBlanks spots)
  if charAt 0 rest ≠ '.' then none
  else
    let (minor, rest) ← versionNumber? (rest.drop 1)
    if major = 1 ∧ (minor = 1 ∨ minor = 2) then return (.version, rest) else none

/-- A handle and what it stands for. -/
def handleToken? (spots : List Spot) : Option (Token × List Spot) := do
  let spots := skipBlanks spots
  if charAt 0 spots ≠ '!' then none
  else
    let (handle, rest) := handleText (spots.drop 1)
    if handle ≠ ['!'] ∧ (handle.length < 2 ∨ handle.getLast? ≠ some '!') then none
    else if !isBlank (charAt 0 rest) then none
    else
      let (start, rest) ← tagText? true 0 (skipBlanks rest)
      if start ≠ [] ∧ isGap (charAt 0 rest) then return (.tagHandle handle start, rest) else none

/-- A directive behind its percent sign, up to the end of its line. -/
def directiveToken? (spots : List Spot) : Option (Token × List Spot) := do
  let (name, rest) := takeName isNameChar spots
  if !isGap (charAt 0 rest) then none
  else
    let (token, rest) ←
      if name = "YAML" then versionToken? rest
      else if name = "TAG" then handleToken? rest
      else none
    return (token, ← blankRest? rest)

end Token

end Scenarist.Yaml

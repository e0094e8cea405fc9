import Scenarist.Text.Basic

/-! # Faults in patterns

A fault has a cause and the part of the pattern where it lies. The report shows the pattern with
the part underlined; a pattern of several lines is shown with line numbers.
-/

namespace Scenarist.Pattern

/-- The characters from `start` up to `stop`. -/
structure Span where
  start : Nat
  stop : Nat
deriving DecidableEq

inductive Cause where
  | classEscape
  | classRange
  | classRangeBoundary
  | classUnclosed
  | decimalTooLarge
  | hexEmpty
  | hexNoCharacter
  | hexDigit
  | escapeUnfinished
  | escapeUnknown
  | flagNegationDangling
  | flagRepeated
  | flagNegationRepeated
  | flagUnfinished
  | flagUnknown
  | groupNameRepeated
  | groupNameEmpty
  | groupNameCharacter
  | groupNameUnclosed
  | groupUnclosed
  | groupUnopened
  | tooDeep
  | countRange
  | countEmpty
  | countUnclosed
  | repetitionOfNothing
  | boundaryUnclosed
  | boundaryUnknown
  | boundaryOrCountUnfinished
  | propertyNotation
  | backreference
  | lookAround
  | unicodeNotAllowed
  | invalidUtf8
  | propertyUnknown
  | propertyValueUnknown
deriving DecidableEq

/-- How deep groups, classes and repetitions may be nested. -/
def depthLimit : Nat := 250

def Cause.message : Cause → Text
  | .classEscape => "invalid escape sequence found in character class"
  | .classRange => "invalid character class range, the start must be <= the end"
  | .classRangeBoundary => "invalid range boundary, must be a literal"
  | .classUnclosed => "unclosed character class"
  | .decimalTooLarge => "decimal literal invalid"
  | .hexEmpty => "hexadecimal literal empty"
  | .hexNoCharacter => "hexadecimal literal is not a Unicode scalar value"
  | .hexDigit => "invalid hexadecimal digit"
  | .escapeUnfinished => "incomplete escape sequence, reached end of pattern prematurely"
  | .escapeUnknown => "unrecognized escape sequence"
  | .flagNegationDangling => "dangling flag negation operator"
  | .flagRepeated => "duplicate flag"
  | .flagNegationRepeated => "flag negation operator repeated"
  | .flagUnfinished => "expected flag but got end of regex"
  | .flagUnknown => "unrecognized flag"
  | .groupNameRepeated => "duplicate capture group name"
  | .groupNameEmpty => "empty capture group name"
  | .groupNameCharacter => "invalid capture group character"
  | .groupNameUnclosed => "unclosed capture group name"
  | .groupUnclosed => "unclosed group"
  | .groupUnopened => "unopened group"
  | .tooDeep =>
    "exceed the maximum number of nested parentheses/brackets (" ++ Text.ofNat depthLimit ++ ")"
  | .countRange => "invalid repetition count range, the start must be <= the end"
  | .countEmpty => "repetition quantifier expects a valid decimal"
  | .countUnclosed => "unclosed counted repetition"
  | .repetitionOfNothing => "repetition operator missing expression"
  | .boundaryUnclosed =>
    "special word boundary assertion is either unclosed or contains an invalid character"
  | .boundaryUnknown =>
    "unrecognized special word boundary assertion, valid choices are: start, end, start-half or end-half"
  | .boundaryOrCountUnfinished =>
    "found either the beginning of a special word boundary or a bounded repetition on a \\b with an opening brace, but no closing brace"
  | .propertyNotation => "invalid Unicode character class"
  | .backreference => "backreferences are not supported"
  | .lookAround => "look-around, including look-ahead and look-behind, is not supported"
  | .unicodeNotAllowed => "Unicode not allowed here"
  | .invalidUtf8 => "pattern can match invalid UTF-8"
  | .propertyUnknown => "Unicode property not found"
  | .propertyValueUnknown => "Unicode property value not found"

structure Fault where
  cause : Cause
  span : Span
  /-- Where the same thing stood before, for what may not be repeated. -/
  earlier : Option Span
deriving DecidableEq

def fail {α : Type} (cause : Cause) (start stop : Nat) : Except Fault α :=
  .error ⟨cause, ⟨start, stop⟩, none⟩

/-! ## The report -/

/-- A line and a column, both counted from one. -/
structure Position where
  line : Nat
  column : Nat

/-- The place before the character number `offset`. -/
def positionAt (offset : Nat) (pattern : Text) : Position :=
  (pattern.take offset).foldl
    (fun p c => if c = '\n' then ⟨p.line + 1, 1⟩ else ⟨p.line, p.column + 1⟩) ⟨1, 1⟩

/-- A span by its ends. -/
structure Extent where
  first : Position
  last : Position

def Span.extent (pattern : Text) (span : Span) : Extent :=
  ⟨positionAt span.start pattern, positionAt span.stop pattern⟩

def Extent.onOneLine (e : Extent) : Bool := e.first.line == e.last.line

/-- The marks under the line, with at least one for each extent. -/
def underline (column : Nat) : List Extent → Text
  | [] => []
  | e :: r =>
    let gap := e.first.column - 1 - column
    let width := max 1 (e.last.column - e.first.column)
    Text.repeated gap ' ' ++ Text.repeated width '^' ++ underline (column + gap + width) r

/-- The faulty extents from left to right. -/
def Fault.extents (pattern : Text) (fault : Fault) : List Extent :=
  let spans := match fault.earlier with
    | some s => if s.start ≤ fault.span.start then [s, fault.span] else [fault.span, s]
    | none => [fault.span]
  spans.map (·.extent pattern)

/-- The number of lines, counting one behind a last line break. -/
def lineCount (pattern : Text) : Nat :=
  (Text.lines pattern).length + (if pattern.getLast? = some '\n' then 1 else 0)

def leftPadded (width : Nat) (t : Text) : Text := Text.repeated (width - t.length) ' ' ++ t

/-- The lines of the pattern, each followed by its marks. Line numbers have `width` places. -/
def shownLines (width : Nat) (extents : List Extent) : (number : Nat) → List Text → Text
  | _, [] => []
  | number, line :: r =>
    let head := if width = 0 then "    ".toList else leftPadded width (Text.ofNat number) ++ ": "
    let here := extents.filter fun e => e.onOneLine && e.first.line == number
    head ++ line ++ '\n' ::
      (if here.isEmpty then [] else Text.repeated head.length ' ' ++ underline 0 here ++ ['\n']) ++
      shownLines width extents (number + 1) r

/-- In words, an extent over several lines. -/
def Extent.phrase (e : Extent) : Text :=
  "on line " ++ Text.ofNat e.first.line ++ " (column " ++ Text.ofNat e.first.column ++
    ") through line " ++ Text.ofNat e.last.line ++ " (column " ++ Text.ofNat (e.last.column - 1) ++
      ")"

/-- The report of a fault in `pattern`. -/
def Fault.message (pattern : Text) (fault : Fault) : Text :=
  let extents := fault.extents pattern
  let count := lineCount pattern
  let width := if count ≤ 1 then 0 else (Text.ofNat count).length
  let shown := shownLines width extents 1 (Text.lines pattern)
  let cause := "error: ".toList ++ fault.cause.message
  if '\n' ∈ pattern then
    let divider := Text.repeated 79 '~' ++ ['\n']
    let long := extents.filter fun e => !e.onOneLine
    "regex parse error:\n".toList ++ divider ++ shown ++ divider ++
      (if long.isEmpty then [] else Text.join ['\n'] (long.map Extent.phrase) ++ ['\n']) ++ cause
  else "regex parse error:\n".toList ++ shown ++ cause

end Scenarist.Pattern

import Scenarist.Chain.Basic
import Scenarist.Text.Basic

/-! # Splitting chains

Parts stand between double angle brackets. Brackets between quotes separate nothing, and a
backslash takes away the meaning of the character behind it. Which engine a part without an engine's
name belongs to is told by its form.
-/

namespace Scenarist.Chain

/-! ## The body of `text=` -/

/-- The part so far is an old text selector whose body has begun: quotes are part of its text. -/
def ignoresQuotes (before : Text) : Bool :=
  match Text.dropStart? "text" (Text.trimStart before) with
  | some r =>
    match Text.trimStart r with
    | '=' :: body => !body.isEmpty
    | _ => false
  | none => false

/-- Quotation marks, of which a second one ends what the first began. -/
def isQuote (c : Char) : Bool := c == '"' || c == '\'' || c == '`'

/-- The segments of a text between double angle brackets. `before` holds the characters of the
current segment, the latest first, and `quote` the mark that is open. -/
def segments (quote : Option Char) (before : Text) : Text → List Text
  | [] => [before.reverse]
  | '\\' :: c :: r => segments quote (c :: '\\' :: before) r
  | '>' :: '>' :: r =>
    if quote = none then before.reverse :: segments none [] r
    else segments quote ('>' :: '>' :: before) r
  | c :: r =>
    if quote = some c then segments none (c :: before) r
    else if quote = none ∧ isQuote c ∧ !ignoresQuotes before.reverse then
      segments (some c) (c :: before) r
    else segments quote (c :: before) r

/-! ## One part -/

/-- Letters, digits and a few signs, at least one of them. -/
def isEngineName (t : Text) : Bool :=
  !t.isEmpty && t.all fun c =>
    c.isAlphanum || c == '_' || c == '-' || c == '+' || c == ':' || c == '*'

/-- The text begins and ends with the same quotation mark. -/
def isQuoted (t : Text) : Bool :=
  1 < t.length &&
    ((t.head? == some '"' && t.getLast? == some '"') ||
      (t.head? == some '\'' && t.getLast? == some '\''))

/-- The text begins like a path. -/
def isPath (t : Text) : Bool :=
  (Text.dropStart? "//" (t.dropWhile (· == '('))).isSome || (Text.dropStart? ".." t).isSome

/-- The engine and the body of a part without an engine's name. -/
def impliedEngine (t : Text) : Text × Text :=
  (if isQuoted t then "text" else if isPath t then "xpath" else "css", t)

/-- The engine's name as written, with a star if it captures, and the body. -/
def engineAndBody (t : Text) : Text × Text :=
  match Text.splitFirst? '=' t with
  | some (name, body) =>
    if isEngineName (Text.trim name) then (Text.trim name, Text.trim body) else impliedEngine t
  | none => impliedEngine t

/-- The name without its star, and whether it had one. -/
def dropStar : Text → Bool × Text
  | '*' :: name => (true, name)
  | name => (false, name)

/-- The parts of a chain as names and bodies, and the number of the captured one. -/
structure Split where
  parts : List (Text × Text)
  capture : Option Nat

/-- A segment as the next part. -/
def Split.add (selector : Text) (s : Split) (segment : Text) : Except Fault Split :=
  let part := Text.trim segment
  if part = [] then .error (.emptyPart selector)
  else
    let (name, body) := engineAndBody part
    let (captured, name) := dropStar name
    let parts := s.parts ++ [(name, body)]
    if captured then
      if s.capture.isSome then .error (.severalCaptures selector)
      else .ok ⟨parts, some s.parts.length⟩
    else .ok ⟨parts, s.capture⟩

/-- The text holds double angle brackets anywhere. -/
def hasBrackets : Text → Bool
  | '>' :: '>' :: _ => true
  | _ :: r => hasBrackets r
  | [] => false

/-- The parts of a text. A text without double angle brackets is one part. -/
def split (selector : Text) : Except Fault Split :=
  if Text.trim selector = [] then .error .empty
  else if hasBrackets selector then
    (segments none [] selector).foldlM (Split.add selector) ⟨[], none⟩
  else Split.add selector ⟨[], none⟩ selector

end Scenarist.Chain

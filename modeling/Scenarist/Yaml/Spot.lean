import Scenarist.Text.Basic

/-! # Characters in their places

The text of a document is read as a list of spots: each character with its place. All line breaks
but the two separators become line feeds, and a null character marks the end.
-/

namespace Scenarist.Yaml

structure Spot where
  char : Char
  index : Nat
  line : Nat
  column : Nat

/-- Line feeds and the line and paragraph separators. Other line breaks are read as line feeds. -/
def isBreak (c : Char) : Bool := c == '\n' || c == '\u2028' || c == '\u2029'

def isBlank (c : Char) : Bool := c == ' ' || c == '\t'

/-- A blank, a line break or the end. -/
def isGap (c : Char) : Bool := isBlank c || isBreak c || c == '\x00'

/-- The characters that a document may hold. -/
def isAllowed (c : Char) : Bool :=
  let n := c.toNat
  n == 0x09 || n == 0x0A || n == 0x0D || (0x20 ≤ n && n ≤ 0x7E) || n == 0x85 ||
    (0xA0 ≤ n && n ≤ 0xD7FF) || (0xE000 ≤ n && n ≤ 0xFFFD) || 0x10000 ≤ n

/-- The spots of a text whose first character has the given place. -/
def locate (index line column : Nat) : Text → List Spot
  | [] => [⟨'\x00', index, line, column⟩]
  | '\r' :: '\n' :: r => ⟨'\n', index, line, column⟩ :: locate (index + 2) (line + 1) 0 r
  | c :: r =>
    if c = '\r' ∨ c = '\n' ∨ c = '\u0085' then
      ⟨'\n', index, line, column⟩ :: locate (index + 1) (line + 1) 0 r
    else if isBreak c then ⟨c, index, line, column⟩ :: locate (index + 1) (line + 1) 0 r
    else ⟨c, index, line, column⟩ :: locate (index + 1) line (column + 1) r

/-- The character `n` places on. -/
def charAt (n : Nat) (spots : List Spot) : Char :=
  match spots[n]? with
  | some s => s.char
  | none => '\x00'

/-- Three dashes or three points that stand alone at the start of a line. -/
def isDocumentMark (spots : List Spot) : Bool :=
  match spots with
  | s :: _ =>
    s.column == 0 && (s.char == '-' || s.char == '.') && charAt 1 spots == s.char &&
      charAt 2 spots == s.char && isGap (charAt 3 spots)
  | [] => false

end Scenarist.Yaml

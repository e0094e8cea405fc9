import Scenarist.Json.Basic

/-! # Writing JSON

A string stands between double quotes. A quote, a backslash and the control characters below the
space are escaped, by a letter where there is one; every other character stands for itself. Values
have two layouts: on one line without blanks, and one member or item a line, two blanks a level.
-/

namespace Scenarist.Json

/-! ## Strings -/

/-- The escape of a control character by its code point: two zeros and two digits. -/
def controlEscape (c : Char) : Text :=
  "\\u00" ++ [Nat.digitChar (c.toNat / 16), Nat.digitChar (c.toNat % 16)]

def escapeChar (c : Char) : Text :=
  if c = '"' then "\\\""
  else if c = '\\' then "\\\\"
  else if c = '\x08' then "\\b"
  else if c = '\x0c' then "\\f"
  else if c = '\n' then "\\n"
  else if c = '\r' then "\\r"
  else if c = '\t' then "\\t"
  else if c < ' ' then controlEscape c
  else [c]

def quote (t : Text) : Text := "\"" ++ t.flatMap escapeChar ++ "\""

/-! ## Values -/

def numberText : Number → Text
  | .integer n _ => Text.ofInt n
  | .real x => Decimal.fractional x

mutual

/-- The value on one line. -/
def compact : Json → Text
  | .null => "null"
  | .bool b => if b then "true" else "false"
  | .number n => numberText n
  | .string t => quote t
  | .array items => "[" ++ Text.join "," (compactItems items) ++ "]"
  | .object members => "\x7b" ++ Text.join "," (compactMembers members) ++ "\x7d"

def compactItems : List Json → List Text
  | [] => []
  | v :: r => compact v :: compactItems r

def compactMembers : List (Text × Json) → List Text
  | [] => []
  | (k, v) :: r => (quote k ++ ":" ++ compact v) :: compactMembers r

end

/-- Pieces between brackets, each on a line of its own at `indent + 2` blanks. -/
def block (opening closing : Text) (indent : Nat) (pieces : List Text) : Text :=
  if pieces = [] then opening ++ closing
  else
    let pad := '\n' :: Text.repeated (indent + 2) ' '
    opening ++ pad ++ Text.join ("," ++ pad) pieces ++ '\n' :: Text.repeated indent ' ' ++ closing

mutual

/-- The value over several lines, as it stands behind `indent` blanks. -/
def pretty (indent : Nat) : Json → Text
  | .null => "null"
  | .bool b => if b then "true" else "false"
  | .number n => numberText n
  | .string t => quote t
  | .array items => block "[" "]" indent (prettyItems (indent + 2) items)
  | .object members => block "\x7b" "\x7d" indent (prettyMembers (indent + 2) members)

def prettyItems (indent : Nat) : List Json → List Text
  | [] => []
  | v :: r => pretty indent v :: prettyItems indent r

def prettyMembers (indent : Nat) : List (Text × Json) → List Text
  | [] => []
  | (k, v) :: r => (quote k ++ ": " ++ pretty indent v) :: prettyMembers indent r

end

end Scenarist.Json

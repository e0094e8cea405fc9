import Scenarist.Yaml.Scalar
import Scenarist.Json.Writer

/-! # Block layout

Mappings and sequences that are not empty take a line for each entry, two blanks a level. Strings
are always quoted; a key is written plain when it looks like a name. A tag is not written.
-/

namespace Scenarist.Yaml

def pad (width : Nat) : Text := Text.repeated width ' '

/-- The value takes lines of its own. -/
def isBlock : Tree → Bool
  | .mapping entries => !entries.isEmpty
  | .sequence items => !items.isEmpty
  | .tagged _ v => isBlock v
  | _ => false

/-- The value on one line. -/
def scalar : Tree → Text
  | .null => "null"
  | .bool b => if b then "true" else "false"
  | .number n => numberText n
  | .string t => Json.quote t
  | .sequence _ => "[]"
  | .mapping _ => "\x7b\x7d"
  | .tagged _ v => scalar v

/-- A letter or an underscore, then letters, digits, underscores, dashes and points. -/
def isPlainKey : Text → Bool
  | [] => false
  | c :: r => (c.isAlpha || c == '_') &&
      r.all fun d => d.isAlphanum || d == '_' || d == '-' || d == '.'

def keyText (key : Tree) : Text :=
  match key with
  | .string t => if isPlainKey t then t else Json.quote t
  | _ => scalar key

mutual

/-- The lines of a value, each behind at least `indent` blanks. -/
def block (indent : Nat) : Tree → Text
  | .mapping entries =>
    if entries.isEmpty then pad indent ++ "\x7b\x7d\n" else blockEntries indent entries
  | .sequence items =>
    if items.isEmpty then pad indent ++ "[]\n" else blockItems indent items
  | .tagged _ v => block indent v
  | .null => pad indent ++ "null\n"
  | .bool b => pad indent ++ scalar (.bool b) ++ "\n"
  | .number n => pad indent ++ scalar (.number n) ++ "\n"
  | .string t => pad indent ++ scalar (.string t) ++ "\n"

/-- The lines of the items of a sequence. The first line of an item that is a block has the dash
in place of its last two blanks. -/
def blockItems (indent : Nat) : List Tree → Text
  | [] => []
  | v :: r =>
    pad indent ++ "- " ++
      (if isBlock v then (block (indent + 2) v).drop (indent + 2) else scalar v ++ "\n") ++
      blockItems indent r

/-- The lines of the entries of a mapping. -/
def blockEntries (indent : Nat) : List (Tree × Tree) → Text
  | [] => []
  | (k, v) :: r =>
    pad indent ++ keyText k ++ ":" ++
      (if isBlock v then "\n" ++ block (indent + 2) v else " " ++ scalar v ++ "\n") ++
      blockEntries indent r

end

/-- A value as the item of a sequence whose dash stands at `indent`. -/
def blockItem (indent : Nat) (v : Tree) : Text := blockItems indent [v]

end Scenarist.Yaml

import Scenarist.Yaml.Tree

/-! # Leaving out defaults

Entries whose value is null, modifiers that are zero or none, and empty frame paths are left out at
every depth. What stands under `debug` is kept as it is.
-/

namespace Scenarist.Yaml

/-- The value is what its key means when it is left out. -/
def isDefault (key : Text) (v : Tree) : Bool :=
  if key = "modifiers" then
    match v with
    | .number n => n.toInt? == some 0
    | .sequence items => items.isEmpty
    | _ => false
  else if key = "framePath" then
    match v.untag with
    | .sequence items => items.isEmpty
    | _ => false
  else false

mutual

def strip : Tree → Tree
  | .mapping entries => .mapping (stripEntries entries)
  | .sequence items => .sequence (stripItems items)
  | .tagged tag v => .tagged tag (strip v)
  | .null => .null
  | .bool b => .bool b
  | .number n => .number n
  | .string t => .string t

def stripItems : List Tree → List Tree
  | [] => []
  | v :: r => strip v :: stripItems r

def stripEntries : List (Tree × Tree) → List (Tree × Tree)
  | [] => []
  | (k, v) :: r =>
    let name := k.text?.getD []
    if v.isNull then stripEntries r
    else if name = "debug" then (k, v) :: stripEntries r
    else if isDefault name v then stripEntries r
    else (k, strip v) :: stripEntries r

end

end Scenarist.Yaml

import Scenarist.Yaml.Layout
import Scenarist.Yaml.Node

/-! # Documents

The node that a text writes. A collection written in lines ends with its block; one written in
brackets ends with its bracket. A name behind `&` marks a node, and the same name behind `*` stands
for it.
-/

namespace Scenarist.Yaml

/-- The tokens left, the tags' handles, and the anchors met so far. -/
structure Reading where
  tokens : List Token
  handles : List (Text × Text)
  /-- The number of each name. A name that is used again gets a new number. -/
  names : List (Text × Nat)
  /-- The nodes under their numbers, the latest first. -/
  nodes : List (Nat × Node)

namespace Reading

def drop (s : Reading) : Reading := { s with tokens := s.tokens.drop 1 }

/-- The next token is one of these. -/
def isAt (expected : List Token) (s : Reading) : Bool :=
  match s.tokens with
  | t :: _ => t ∈ expected
  | [] => false

/-- The reading without its next token, when that is `expected`. -/
def take? (expected : Token) (s : Reading) : Option Reading :=
  if s.isAt [expected] then some s.drop else none

def declare (anchor : Option Text) (s : Reading) : Reading :=
  match anchor with
  | some name =>
    let number := s.names.length
    { s with names := (name, number) :: s.names.filter (·.1 ≠ name) }
  | none => s

/-- The node with the number that its anchor got before it was read. -/
def define (s : Reading) (anchor : Option Text) (before : Reading) (node : Node) : Reading :=
  match anchor with
  | some _ => { s with nodes := (before.names.length, node) :: s.nodes }
  | none => s

/-! ## Properties of a node -/

/-- The tag that a handle and a suffix write. -/
def tagText? (handle suffix : Text) (s : Reading) : Option Text :=
  if handle = [] then some suffix
  else (s.handles.lookup handle).map (· ++ suffix)

def anchor? (s : Reading) : Option Text × Reading :=
  match s.tokens with
  | .anchor name :: r => (some name, { s with tokens := r })
  | _ => (none, s)

def tag? (s : Reading) : Option (Option Text × Reading) :=
  match s.tokens with
  | .tag handle suffix :: r => do
    let tag ← s.tagText? handle suffix
    return (some tag, { s with tokens := r })
  | _ => some (none, s)

/-- An anchor and a tag in either order, each at most once. -/
def properties? (s : Reading) : Option (Option Text × Option Text × Reading) := do
  match s.anchor? with
  | (some anchor, s) => do
    let (tag, s) ← s.tag?
    return (some anchor, tag, s)
  | (none, s) => do
    let (tag, s) ← s.tag?
    match tag with
    | some tag =>
      let (anchor, s) := s.anchor?
      return (anchor, some tag, s)
    | none => return (none, none, s)

/-! ## Nodes -/

mutual

/-- A node. Collections in lines are read only if `block`, and one whose dashes stand in the
column of their key only if `indentless`. -/
def node? : (fuel : Nat) → (block indentless : Bool) → Reading → Option (Node × Reading)
  | 0, _, _, _ => none
  | n + 1, block, indentless, s =>
    match s.tokens with
    | .alias name :: _ => (s.names.lookup name).map fun number => (.alias number, s.drop)
    | _ => do
      let (anchor, tag, inner) ← s.properties?
      let marked := anchor.isSome || tag.isSome
      let (node, rest) ← content? n block indentless marked tag (inner.declare anchor)
      return (node, rest.define anchor s node)

/-- A node behind its properties. It may be empty if it is marked by them. -/
def content? : (fuel : Nat) → (block indentless marked : Bool) → (tag : Option Text) → Reading →
    Option (Node × Reading)
  | 0, _, _, _, _, _ => none
  | n + 1, block, indentless, marked, tag, s =>
    let empty : Option (Node × Reading) := if marked then some (.scalar tag .plain [], s) else none
    let sequence : List Node × Reading → Node × Reading :=
      fun (items, s) => (.sequence tag items, s)
    let mapping : List (Node × Node) × Reading → Node × Reading :=
      fun (entries, s) => (.mapping tag entries, s)
    match s.tokens with
    | .scalar style text :: _ => some (.scalar (tag.filter (· ≠ ['!'])) style text, s.drop)
    | .openSequence :: _ => (flowItems? n true s.drop).map sequence
    | .openMapping :: _ => (flowEntries? n true s.drop).map mapping
    | .entry :: _ => if indentless then (indentlessItems? n s).map sequence else empty
    | .blockSequence :: _ => if block then (blockItems? n s.drop).map sequence else empty
    | .blockMapping :: _ => if block then (blockEntries? n s.drop).map mapping else empty
    | _ => empty

/-- A node, or nothing before one of the tokens in `ends`. -/
def nodeBefore? : (fuel : Nat) → (block indentless : Bool) → (ends : List Token) → Reading →
    Option (Node × Reading)
  | 0, _, _, _, _ => none
  | n + 1, block, indentless, ends, s =>
    if s.isAt ends then some (.empty, s) else node? n block indentless s

/-- What follows a colon, if there is one. -/
def valueBefore? : (fuel : Nat) → (block : Bool) → (ends : List Token) → Reading →
    Option (Node × Reading)
  | 0, _, _, _ => none
  | n + 1, block, ends, s =>
    match s.take? .value with
    | some s => nodeBefore? n block block ends s
    | none => some (.empty, s)

/-- The items of a sequence in lines, up to the end of its block. -/
def blockItems? : (fuel : Nat) → Reading → Option (List Node × Reading)
  | 0, _ => none
  | n + 1, s =>
    match s.tokens with
    | .entry :: _ => do
      let (item, s) ← nodeBefore? n true false [.entry, .blockEnd] s.drop
      let (items, s) ← blockItems? n s
      return (item :: items, s)
    | .blockEnd :: _ => some ([], s.drop)
    | _ => none

/-- The items of a sequence in the column of its key, up to the first token that is no dash. -/
def indentlessItems? : (fuel : Nat) → Reading → Option (List Node × Reading)
  | 0, _ => none
  | n + 1, s =>
    match s.tokens with
    | .entry :: _ => do
      let (item, s) ← nodeBefore? n true false [.entry, .key, .value, .blockEnd] s.drop
      let (items, s) ← indentlessItems? n s
      return (item :: items, s)
    | _ => some ([], s)

/-- The entries of a mapping in lines, up to the end of its block. -/
def blockEntries? : (fuel : Nat) → Reading → Option (List (Node × Node) × Reading)
  | 0, _ => none
  | n + 1, s =>
    match s.tokens with
    | .key :: _ => do
      let (key, s) ← nodeBefore? n true true [.key, .value, .blockEnd] s.drop
      let (value, s) ← valueBefore? n true [.key, .value, .blockEnd] s
      let (entries, s) ← blockEntries? n s
      return ((key, value) :: entries, s)
    | .blockEnd :: _ => some ([], s.drop)
    | _ => none

/-- The items of a sequence in brackets. -/
def flowItems? : (fuel : Nat) → (first : Bool) → Reading → Option (List Node × Reading)
  | 0, _, _ => none
  | n + 1, first, s =>
    match s.take? .closeSequence with
    | some s => some ([], s)
    | none => do
      let s ← if first then some s else s.take? .comma
      match if first then none else s.take? .closeSequence with
      | some s => return ([], s)
      | none =>
        let (item, s) ← flowItem? n s
        let (items, s) ← flowItems? n false s
        return (item :: items, s)

/-- An item may be a single entry of a mapping. A token that takes the place of its key is passed
over. -/
def flowItem? : (fuel : Nat) → Reading → Option (Node × Reading)
  | 0, _ => none
  | n + 1, s =>
    match s.take? .key with
    | none => node? n false false s
    | some s => do
      let (key, s) ←
        if s.isAt [.value, .comma, .closeSequence] then some (.empty, s.drop)
        else node? n false false s
      let (value, s) ← valueBefore? n false [.comma, .closeSequence] s
      return (.mapping none [(key, value)], s)

/-- The entries of a mapping in brackets. -/
def flowEntries? : (fuel : Nat) → (first : Bool) → Reading → Option (List (Node × Node) × Reading)
  | 0, _, _ => none
  | n + 1, first, s =>
    match s.take? .closeMapping with
    | some s => some ([], s)
    | none => do
      let s ← if first then some s else s.take? .comma
      match if first then none else s.take? .closeMapping with
      | some s => return ([], s)
      | none =>
        let (entry, s) ← flowEntry? n s
        let (entries, s) ← flowEntries? n false s
        return (entry :: entries, s)

/-- A key may stand without a value. -/
def flowEntry? : (fuel : Nat) → Reading → Option ((Node × Node) × Reading)
  | 0, _ => none
  | n + 1, s =>
    match s.take? .key with
    | none => (node? n false false s).map fun (key, s) => ((key, .empty), s)
    | some s => do
      let (key, s) ← nodeBefore? n false false [.value, .comma, .closeMapping] s
      let (value, s) ← valueBefore? n false [.comma, .closeMapping] s
      return ((key, value), s)

end

/-! ## The whole text -/

/-- The directives before a document, which has at most one version and each handle once. -/
def directives? (version : Bool) (s : Reading) : List Token → Option Reading
  | .version :: r => if version then none else directives? true s r
  | .tagHandle handle start :: r =>
    if (s.handles.lookup handle).isSome then none
    else directives? version { s with handles := s.handles ++ [(handle, start)] } r
  | .documentStart :: r =>
    some { s with
      tokens := r
      handles := s.handles ++ [(['!'], ['!']), (['!', '!'], Node.coreTag [])] }
  | _ => none

/-- The document's beginning: a mark behind directives, or nothing. -/
def begin? (tokens : List Token) : Option (Bool × Reading) :=
  let s : Reading := ⟨tokens, [], [], []⟩
  match tokens with
  | .version :: _ | .tagHandle _ _ :: _ | .documentStart :: _ =>
    (s.directives? false tokens).map fun s => (true, s)
  | _ => some (false, { s with handles := [(['!'], ['!']), (['!', '!'], Node.coreTag [])] })

/-- Nothing is left of the document but marks of its end. -/
def isDone (s : Reading) : Bool := s.tokens.all (· == .documentEnd)

end Reading

/-! ## Aliases -/

namespace Node

mutual

/-- The number of scalars and aliases and of the ends of collections. -/
def weight : Node → Nat
  | .sequence _ items => weightItems items + 2
  | .mapping _ entries => weightEntries entries + 2
  | .scalar _ _ _ => 1
  | .alias _ => 1
  | .value _ => 1

def weightItems : List Node → Nat
  | [] => 0
  | n :: r => weight n + weightItems r

def weightEntries : List (Node × Node) → Nat
  | [] => 0
  | (k, v) :: r => weight k + weight v + weightEntries r

end

mutual

/-- The node with every alias replaced. `jumps` is the number of aliases that may still be
followed, and `depth` the number of collections that may still be entered. -/
def resolve? (nodes : List (Nat × Node)) :
    (fuel jumps depth : Nat) → Node → Option (Node × Nat)
  | 0, _, _, _ => none
  | n + 1, jumps, depth, node =>
    match node with
    | .alias number =>
      if jumps = 0 then none
      else (nodes.lookup number).bind (resolve? nodes n (jumps - 1) depth)
    | .sequence tag items =>
      if depth = 0 then none
      else (resolveItems? nodes n jumps (depth - 1) items).map fun (r, j) => (.sequence tag r, j)
    | .mapping tag entries =>
      if depth = 0 then none
      else (resolveEntries? nodes n jumps (depth - 1) entries).map fun (r, j) => (.mapping tag r, j)
    | .scalar _ _ _ => some (node, jumps)
    | .value _ => some (node, jumps)

def resolveItems? (nodes : List (Nat × Node)) :
    (fuel jumps depth : Nat) → List Node → Option (List Node × Nat)
  | 0, _, _, _ => none
  | _ + 1, jumps, _, [] => some ([], jumps)
  | n + 1, jumps, depth, item :: r => do
    let (item, jumps) ← resolve? nodes n jumps depth item
    let (items, jumps) ← resolveItems? nodes n jumps depth r
    return (item :: items, jumps)

def resolveEntries? (nodes : List (Nat × Node)) :
    (fuel jumps depth : Nat) → List (Node × Node) → Option (List (Node × Node) × Nat)
  | 0, _, _, _ => none
  | _ + 1, jumps, _, [] => some ([], jumps)
  | n + 1, jumps, depth, (k, v) :: r => do
    let (k, jumps) ← resolve? nodes n jumps depth k
    let (v, jumps) ← resolve? nodes n jumps depth v
    let (entries, jumps) ← resolveEntries? nodes n jumps depth r
    return ((k, v) :: entries, jumps)

end

/-- The number of collections that may stand inside each other. -/
def depthLimit : Nat := 128

/-- The node of a text that holds one document. A text without tokens is an empty node. -/
def read? (t : Text) : Option Node := do
  let tokens ← tokens? t
  if tokens = [] then some .empty
  else
    let fuel := 6 * tokens.length + 6
    let (explicit, s) ← Reading.begin? tokens
    let (node, s) ←
      if explicit && (s.tokens = [] || s.isAt [.documentEnd]) then some (Node.empty, s)
      else s.node? fuel true false
    if s.isDone then
      let weight := node.weight
      let (node, _) ← node.resolve? s.nodes (fuel * (depthLimit + 1)) (100 * weight) depthLimit
      return node
    else none

end Node

end Scenarist.Yaml

import Scenarist.Yaml.Token
import Scenarist.Yaml.Scalar

/-! # Nodes

A node is a value as it was written: its tag and its style decide, together with the type that is
asked for, what it is read as. Values that came from elsewhere are nodes of a settled type.
-/

namespace Scenarist.Yaml

inductive Node where
  | scalar (tag : Option Text) (style : Style) (text : Text)
  | sequence (tag : Option Text) (items : List Node)
  | mapping (tag : Option Text) (entries : List (Node × Node))
  /-- The node with the anchor of this number. -/
  | alias (anchor : Nat)
  /-- A value whose type is settled. -/
  | value (tree : Tree)

namespace Node

/-- What stands where nothing is written. -/
def empty : Node := .scalar none .plain []

def ofJson (j : Json) : Node := .value (.ofJson j)

/-- The name of a tag of the core schema. -/
def coreTag (name : Text) : Text := "tag:yaml.org,2002:".toList ++ name

/-- The name of a tag that is not of the core schema but of the document's own. -/
def ownTag? : Option Text → Option Text
  | some ('!' :: name) => some name
  | _ => none

/-- A scalar without its own tag, by its core tag or by its style. -/
def scalarValue? (tag : Option Text) (style : Style) (text : Text) : Option Tree :=
  if tag = some (coreTag "bool") then (Scalar.bool? text).map .bool
  else if tag = some (coreTag "int") then
    (Scalar.integer? text).bind fun n => (Number.ofInt? n).map .number
  else if tag = some (coreTag "float") then (Scalar.real? text).map fun x => .number (.real x)
  else if tag = some (coreTag "null") then if Scalar.isNullWord text then some .null else none
  else if tag = none ∧ style = .plain then Scalar.value? text
  else some (.string text)

/-- A scalar behind its own tag, whose style alone decides. -/
def taggedValue? (style : Style) (text : Text) : Option Tree :=
  if style = .plain then Scalar.value? text else some (.string text)

/-- A tag must have a name. -/
def withTag? (tag : Option Text) (v : Tree) : Option Tree :=
  match ownTag? tag with
  | some [] => none
  | some name => some (.tagged name v)
  | none => some v

/-- Keys are the same when they are equal, or equal as numbers. -/
def sameKey : Tree → Tree → Bool
  | .number (.real x), .number (.real y) => x == y || (x.isZero && y.isZero) || (x.isNaN && y.isNaN)
  | a, b => a == b

def hasKey (key : Tree) (entries : List (Tree × Tree)) : Bool :=
  entries.any fun (k, _) => sameKey key k

mutual

/-- The value of a node on its own. A mapping may not have a key twice. -/
def tree? : Node → Option Tree
  | .scalar tag style text =>
    match ownTag? tag with
    | some [] => none
    | some name => (taggedValue? style text).map (.tagged name)
    | none => scalarValue? tag style text
  | .sequence tag items => do withTag? tag (.sequence (← treeItems? items))
  | .mapping tag entries => do withTag? tag (.mapping (← treeEntries? entries))
  | .alias _ => none
  | .value t => some t

def treeItems? : List Node → Option (List Tree)
  | [] => some []
  | n :: r => do return (← tree? n) :: (← treeItems? r)

def treeEntries? : List (Node × Node) → Option (List (Tree × Tree))
  | [] => some []
  | (k, v) :: r => do
    let k ← tree? k
    let v ← tree? v
    let rest ← treeEntries? r
    if hasKey k rest then none else return (k, v) :: rest

end

mutual

/-- The value of a node before its type is known. It may have no tag of its own. -/
def content? : Node → Option Tree
  | .scalar tag style text => if (ownTag? tag).isSome then none else scalarValue? tag style text
  | .sequence tag items =>
    if (ownTag? tag).isSome then none else (contentItems? items).map .sequence
  | .mapping tag entries =>
    if (ownTag? tag).isSome then none else (contentEntries? entries).map .mapping
  | .alias _ => none
  | .value t => some t

def contentItems? : List Node → Option (List Tree)
  | [] => some []
  | n :: r => do return (← content? n) :: (← contentItems? r)

def contentEntries? : List (Node × Node) → Option (List (Tree × Tree))
  | [] => some []
  | (k, v) :: r => do
    let k ← content? k
    let v ← content? v
    return (k, v) :: (← contentEntries? r)

end

/-- The text of a scalar, whatever its tag and style. -/
def text? : Node → Option Text
  | .scalar _ _ t => some t
  | .value (.string t) => some t
  | _ => none

/-- A finite number stays; the others are null. -/
def finiteNumber : Number → Json
  | .real x => if x.isFinite then .number (.real x) else .null
  | n => .number n

def jsonScalar? : Tree → Option Json
  | .null => some .null
  | .bool b => some (.bool b)
  | .number n => some (finiteNumber n)
  | .string t => some (.string t)
  | _ => none

mutual

/-- The JSON value of a settled value. Keys must be strings. -/
def jsonOfTree? : Tree → Option Json
  | .sequence items => (jsonOfItems? items).map .array
  | .mapping entries => (jsonOfEntries? entries).map Json.ofMembers
  | .null => some .null
  | .bool b => some (.bool b)
  | .number n => some (finiteNumber n)
  | .string t => some (.string t)
  | .tagged _ _ => none

def jsonOfItems? : List Tree → Option (List Json)
  | [] => some []
  | v :: r => do return (← jsonOfTree? v) :: (← jsonOfItems? r)

def jsonOfEntries? : List (Tree × Tree) → Option (List (Text × Json))
  | [] => some []
  | (k, v) :: r => do
    let .string key := k | none
    let v ← jsonOfTree? v
    return (key, v) :: (← jsonOfEntries? r)

end

mutual

/-- The JSON value of a node. Keys are the texts of scalars, and of two equal keys the later one
counts. -/
def json? : Node → Option Json
  | .scalar tag style text =>
    if (ownTag? tag).isSome then none else (scalarValue? tag style text).bind jsonScalar?
  | .sequence tag items =>
    if (ownTag? tag).isSome then none else (jsonItems? items).map .array
  | .mapping tag entries =>
    if (ownTag? tag).isSome then none else (jsonMembers? entries).map Json.ofMembers
  | .alias _ => none
  | .value t => jsonOfTree? t

def jsonItems? : List Node → Option (List Json)
  | [] => some []
  | n :: r => do return (← json? n) :: (← jsonItems? r)

def jsonMembers? : List (Node × Node) → Option (List (Text × Json))
  | [] => some []
  | (k, v) :: r => do
    let key ← text? k
    let v ← json? v
    return (key, v) :: (← jsonMembers? r)

end

end Node

end Scenarist.Yaml

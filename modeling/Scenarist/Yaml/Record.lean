import Scenarist.Yaml.Node

/-! # Typed values

What a node is read as when its type is known. Where a text is wanted every scalar is one as it is
written; values of a settled type must have the type wanted. Records are mappings from the names
of their fields, or lists of the fields' values in order.
-/

namespace Scenarist.Yaml.Node

/-! ## Scalars -/

/-- The node stands for a value that is left out. A null tag before anything else has no
meaning. -/
def isAbsent? : Node → Option Bool
  | .scalar tag style text =>
    if style ≠ .plain then some false
    else if tag = some (coreTag "null") then if Scalar.isNullWord text then some true else none
    else if tag.isSome then some false
    else some (text == [] || Scalar.isNullWord text)
  | .value t => some (t == .null)
  | _ => some false

/-- The text of a scalar that may stand for a value of the core type `name`. -/
def plainText? (name : Text) : Node → Option Text
  | .scalar tag style text =>
    if style = .plain ∨ (style = .literal ∧ tag = some (coreTag name)) then some text else none
  | _ => none

def bool? (n : Node) : Option Bool :=
  match n with
  | .value (.bool b) => some b
  | n => (n.plainText? "bool").bind Scalar.bool?

def uint32? (n : Node) : Option UInt32 :=
  match n with
  | .value (.number k) => k.toUInt32?
  | n => do (← Number.ofInt? (← Scalar.natural? (← n.plainText? "int"))).toUInt32?

def int32? (n : Node) : Option Int32 :=
  match n with
  | .value (.number k) => k.toInt32?
  | n => do (← Number.ofInt? (← Scalar.integer? (← n.plainText? "int"))).toInt32?

/-- The word for one of several choices. It may be written as a tag on nothing, or be the key of
nothing. -/
def choice? : Node → Option Text
  | .scalar tag style text =>
    match ownTag? tag with
    | some name => if style = .plain ∧ (text = [] ∨ Scalar.isNullWord text) then some name else none
    | none => some text
  | .value (.string t) => some t
  | .value (.mapping [(.string t, .null)]) => some t
  | _ => none

/-! ## Lists and mappings -/

/-- The scalar is nothing at all, which stands for an empty collection. -/
def isNothing : Node → Bool
  | .scalar _ style text => style == .plain && text == []
  | _ => false

def items? : Node → Option (List Node)
  | .sequence _ items => some items
  | .value (.sequence items) => some (items.map .value)
  | n => if n.isNothing then some [] else none

/-- The items of a list, each read by `f`. -/
def list? {α : Type} (f : Node → Option α) (n : Node) : Option (List α) :=
  n.items?.bind fun items => items.mapM f

def entries? : Node → Option (List (Node × Node))
  | .mapping _ entries => some entries
  | .value (.mapping entries) => some (entries.map fun (k, v) => (.value k, .value v))
  | n => if n.isNothing then some [] else none

/-- The entry in its place among ascending keys; it takes the place of one with the same key. -/
def insertText (key value : Text) : List (Text × Text) → List (Text × Text)
  | [] => [(key, value)]
  | (k, v) :: r =>
    if key = k then (key, value) :: r
    else if key < k then (key, value) :: (k, v) :: r
    else (k, v) :: insertText key value r

/-- A mapping from texts to texts in ascending order of its keys. -/
def textMap? (n : Node) : Option (List (Text × Text)) := do
  let entries ← (← n.entries?).mapM fun (k, v) => return (← k.text?, ← v.text?)
  return entries.foldl (fun acc (k, v) => insertText k v acc) []

/-! ## Records -/

/-- The fields that are there. If they were listed in order, only fields with a default may be
missing. -/
structure Record where
  fields : List (Text × Node)
  listed : Bool

/-- The field that a key names. A settled key may also be the number of the field. Fields without
a meaning are named by the empty text. -/
def fieldName? (names : List Text) : Node → Option Text
  | .value (.string t) => some (if t.isOneOf names then t else [])
  | .value (.number (.integer n _)) => if 0 ≤ n then some (names[n.toNat]?.getD []) else none
  | .value _ => none
  | n => n.text?.map fun t => if t.isOneOf names then t else []

/-- The fields with a meaning. None may be there twice. -/
def fields? (names : List Text) : List (Node × Node) → Option (List (Text × Node))
  | [] => some []
  | (k, v) :: r => do
    let name ← fieldName? names k
    let rest ← fields? names r
    if name = [] then return rest
    else if (rest.lookup name).isSome then none
    else return (name, v) :: rest

/-- The record that a mapping writes. -/
def mapped? (names : List Text) (n : Node) : Option Record := do
  return ⟨← fields? names (← n.entries?), false⟩

/-- The record that a mapping or a settled list writes. The list may not have more items than
there are fields. -/
def record? (names : List Text) : Node → Option Record
  | .value (.sequence items) =>
    if names.length < items.length then none
    else some ⟨names.zip (items.map .value), true⟩
  | n => n.mapped? names

/-- A record without fields: a mapping whatever it holds, or an empty list. -/
def nothing? : Node → Option Unit
  | .mapping _ _ => some ()
  | .value (.mapping _) => some ()
  | .value (.sequence []) => some ()
  | _ => none

namespace Record

def required? {α : Type} (name : Text) (f : Node → Option α) (r : Record) : Option α :=
  (r.fields.lookup name).bind f

/-- A field that may be null. It may also be missing, from a list only when it has a default. -/
def optional? {α : Type} (name : Text) (hasDefault : Bool) (f : Node → Option α) (r : Record) :
    Option (Option α) :=
  match r.fields.lookup name with
  | none => if r.listed && !hasDefault then none else some none
  | some n => do if ← n.isAbsent? then return none else return some (← f n)

/-- A field with a value for when it is missing. -/
def defaulted? {α : Type} (name : Text) (fallback : α) (f : Node → Option α) (r : Record) :
    Option α :=
  match r.fields.lookup name with
  | none => some fallback
  | some n => f n

end Record

/-! ## Tagged records -/

/-- Takes the one entry under `key` out of a mapping of settled keys. -/
def takeUnder? (key : Text) : List (Tree × Node) → Option (Node × List (Tree × Node))
  | [] => none
  | (k, v) :: r =>
    if k = .string key then
      if r.any fun (k, _) => k == .string key then none else some (v, r)
    else (takeUnder? key r).map fun (found, rest) => (found, (k, v) :: rest)

/-- The word under `key`, which says what the rest of the record is, and that rest. In a list the
word comes first. -/
def tagged? (key : Text) : Node → Option (Text × Node)
  | .mapping tag entries => do
    if (ownTag? tag).isSome then none
    else
      let entries ← entries.mapM fun (k, v) => return (← k.content?, v)
      let (word, rest) ← takeUnder? key entries
      let rest ← rest.mapM fun (k, v) => return (k, ← v.content?)
      return (← word.text?, .value (.mapping rest))
  | .sequence tag items => do
    if (ownTag? tag).isSome then none
    else
      let word :: rest := items | none
      return (← word.text?, .value (.sequence (← rest.mapM content?)))
  | .value (.mapping entries) => do
    let (word, rest) ← takeUnder? key (entries.map fun (k, v) => (k, .value v))
    let rest ← rest.mapM fun (k, v) => return (k, ← v.content?)
    return (← word.text?, .value (.mapping rest))
  | .value (.sequence (word :: rest)) => do
    return (← (Node.value word).text?, .value (.sequence rest))
  | _ => none

end Scenarist.Yaml.Node

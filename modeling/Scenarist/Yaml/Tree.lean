import Scenarist.Json.Basic

/-! # Value trees

The values of YAML documents. Mappings keep the order in which they were written, and any value
may be a key. A tag stands before the value it names.
-/

namespace Scenarist.Yaml

inductive Tree where
  | null
  | bool (value : Bool)
  | number (value : Number)
  | string (value : Text)
  | sequence (items : List Tree)
  | mapping (entries : List (Tree × Tree))
  | tagged (tag : Text) (value : Tree)

namespace Tree

mutual

/-- Equality of trees is decided part by part. -/
def decideEq : (a b : Tree) → Decidable (a = b)
  | .null, .null => isTrue rfl
  | .bool a, .bool b => if h : a = b then isTrue (by rw [h]) else isFalse (by simp [h])
  | .number a, .number b => if h : a = b then isTrue (by rw [h]) else isFalse (by simp [h])
  | .string a, .string b => if h : a = b then isTrue (by rw [h]) else isFalse (by simp [h])
  | .sequence a, .sequence b =>
    match decideEqItems a b with
    | isTrue h => isTrue (by rw [h])
    | isFalse h => isFalse (by simp [h])
  | .mapping a, .mapping b =>
    match decideEqEntries a b with
    | isTrue h => isTrue (by rw [h])
    | isFalse h => isFalse (by simp [h])
  | .tagged t a, .tagged u b =>
    if ht : t = u then
      match decideEq a b with
      | isTrue h => isTrue (by rw [ht, h])
      | isFalse h => isFalse (by simp [h])
    else isFalse (by simp [ht])
  | .null, .bool _ | .null, .number _ | .null, .string _ | .null, .sequence _ | .null, .mapping _
  | .null, .tagged _ _ | .bool _, .null | .bool _, .number _ | .bool _, .string _
  | .bool _, .sequence _ | .bool _, .mapping _ | .bool _, .tagged _ _ | .number _, .null
  | .number _, .bool _ | .number _, .string _ | .number _, .sequence _ | .number _, .mapping _
  | .number _, .tagged _ _ | .string _, .null | .string _, .bool _ | .string _, .number _
  | .string _, .sequence _ | .string _, .mapping _ | .string _, .tagged _ _ | .sequence _, .null
  | .sequence _, .bool _ | .sequence _, .number _ | .sequence _, .string _
  | .sequence _, .mapping _ | .sequence _, .tagged _ _ | .mapping _, .null | .mapping _, .bool _
  | .mapping _, .number _ | .mapping _, .string _ | .mapping _, .sequence _
  | .mapping _, .tagged _ _ | .tagged _ _, .null | .tagged _ _, .bool _ | .tagged _ _, .number _
  | .tagged _ _, .string _ | .tagged _ _, .sequence _ | .tagged _ _, .mapping _ =>
    isFalse (by simp)

def decideEqItems : (a b : List Tree) → Decidable (a = b)
  | [], [] => isTrue rfl
  | [], _ :: _ | _ :: _, [] => isFalse (by simp)
  | a :: as, b :: bs =>
    match decideEq a b, decideEqItems as bs with
    | isTrue h, isTrue h' => isTrue (by rw [h, h'])
    | isFalse h, _ => isFalse (by simp [h])
    | _, isFalse h => isFalse (by simp [h])

def decideEqEntries : (a b : List (Tree × Tree)) → Decidable (a = b)
  | [], [] => isTrue rfl
  | [], _ :: _ | _ :: _, [] => isFalse (by simp)
  | (k, a) :: as, (l, b) :: bs =>
    match decideEq k l, decideEq a b, decideEqEntries as bs with
    | isTrue hk, isTrue h, isTrue h' => isTrue (by rw [hk, h, h'])
    | isFalse h, _, _ => isFalse (by simp [h])
    | _, isFalse h, _ => isFalse (by simp [h])
    | _, _, isFalse h => isFalse (by simp [h])

end

instance : DecidableEq Tree := decideEq

/-- The value behind all tags. -/
def untag : Tree → Tree
  | .tagged _ v => untag v
  | v => v

def isNull (t : Tree) : Bool :=
  match t.untag with
  | .null => true
  | _ => false

def text? (t : Tree) : Option Text :=
  match t.untag with
  | .string s => some s
  | _ => none

mutual

/-- A JSON value as a tree: keys become strings. -/
def ofJson : Json → Tree
  | .null => .null
  | .bool b => .bool b
  | .number n => .number n
  | .string t => .string t
  | .array items => .sequence (ofJsonItems items)
  | .object members => .mapping (ofJsonMembers members)

def ofJsonItems : List Json → List Tree
  | [] => []
  | v :: r => ofJson v :: ofJsonItems r

def ofJsonMembers : List (Text × Json) → List (Tree × Tree)
  | [] => []
  | (k, v) :: r => (.string k, ofJson v) :: ofJsonMembers r

end

mutual

/-- A tree as a JSON value in its own order. Keys that are no strings are empty, and tags are left
out. -/
def toJson : Tree → Json
  | .null => .null
  | .bool b => .bool b
  | .number n => .number n
  | .string t => .string t
  | .sequence items => .array (toJsonItems items)
  | .mapping entries => .object (toJsonMembers entries)
  | .tagged _ v => toJson v

def toJsonItems : List Tree → List Json
  | [] => []
  | v :: r => toJson v :: toJsonItems r

def toJsonMembers : List (Tree × Tree) → List (Text × Json)
  | [] => []
  | (k, v) :: r => (k.text?.getD [], toJson v) :: toJsonMembers r

end

end Tree

end Scenarist.Yaml

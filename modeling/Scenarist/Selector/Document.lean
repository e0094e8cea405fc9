import Scenarist.Selector.Basic

/-! # Selectors in documents

All fields are written, null where they are unset. Selectors inside filters are written and read in
the same way.
-/

namespace Scenarist

/-! ## Writing -/

mutual

def Selector.toJson : Selector → Json
  | ⟨page, framePath, element, filters, nth⟩ =>
    .object [("page", Json.orNull .string page),
      ("framePath", Json.orNull (fun path => .array (path.map FrameRef.toJson)) framePath),
      ("element", Json.orNull Element.toJson element),
      ("filters", filtersJson filters),
      ("nth", Json.orNull (fun n => .number (.ofInt32 n)) nth)]

def filtersJson : Option Filters → Json
  | none => .null
  | some f => Filters.toJson f

def Filters.toJson : Filters → Json
  | ⟨hasText, hasNotText, visible, has, hasNot⟩ =>
    .object [("hasText", Json.orNull TextMatcher.toJson hasText),
      ("hasNotText", Json.orNull TextMatcher.toJson hasNotText),
      ("visible", Json.orNull .bool visible),
      ("has", innerJson has), ("hasNot", innerJson hasNot)]

def innerJson : Option Selector → Json
  | none => .null
  | some s => Selector.toJson s

end

/-! ## Reading -/

namespace Yaml

mutual

/-- How many collections stand inside each other at most, counting the value itself. -/
def Tree.height : Tree → Nat
  | .sequence items => 1 + Tree.itemsHeight items
  | .mapping entries => 1 + Tree.entriesHeight entries
  | .tagged _ v => v.height
  | .null => 1
  | .bool _ => 1
  | .number _ => 1
  | .string _ => 1

def Tree.itemsHeight : List Tree → Nat
  | [] => 0
  | v :: r => max v.height (Tree.itemsHeight r)

def Tree.entriesHeight : List (Tree × Tree) → Nat
  | [] => 0
  | (_, v) :: r => max v.height (Tree.entriesHeight r)

end

mutual

/-- How many collections stand inside each other at most, counting the node itself. -/
def Node.height : Node → Nat
  | .sequence _ items => 1 + Node.itemsHeight items
  | .mapping _ entries => 1 + Node.entriesHeight entries
  | .scalar _ _ _ => 1
  | .alias _ => 1
  | .value t => t.height

def Node.itemsHeight : List Node → Nat
  | [] => 0
  | n :: r => max n.height (Node.itemsHeight r)

def Node.entriesHeight : List (Node × Node) → Nat
  | [] => 0
  | (_, n) :: r => max n.height (Node.entriesHeight r)

end

end Yaml

open Yaml

/-- The filters of a node. `inner?` reads the selectors in them. -/
def Filters.ofNodeWith? (inner? : Node → Option Selector) (n : Node) : Option Filters := do
  let r ← n.record? ["hasText", "hasNotText", "visible", "has", "hasNot"]
  return {
    hasText := ← r.optional? "hasText" false TextMatcher.ofNode?
    hasNotText := ← r.optional? "hasNotText" false TextMatcher.ofNode?
    visible := ← r.optional? "visible" false Node.bool?
    has := ← r.optional? "has" false inner?
    hasNot := ← r.optional? "hasNot" false inner? }

/-- The selector of a node that is no higher than `room`. -/
def Selector.ofNodeWithin? : (room : Nat) → Node → Option Selector
  | 0, _ => none
  | room + 1, n => do
    let r ← n.record? ["page", "framePath", "element", "filters", "nth"]
    return {
      page := ← r.optional? "page" false Node.text?
      framePath := ← r.optional? "framePath" false (Node.list? FrameRef.ofNode?)
      element := ← r.optional? "element" false Element.ofNode?
      filters := ← r.optional? "filters" false (Filters.ofNodeWith? (ofNodeWithin? room))
      nth := ← r.optional? "nth" false Node.int32? }

def Selector.ofNode? (n : Node) : Option Selector := ofNodeWithin? n.height n

def Filters.ofNode? (n : Node) : Option Filters := ofNodeWith? (Selector.ofNodeWithin? n.height) n

end Scenarist

import Scenarist.Selector.Element
import Scenarist.Selector.FrameRef

/-! # Selectors

A selector says which element a step is about: the page, the frames to enter, the element, filters
on it, and its place among those that remain.
-/

namespace Scenarist

mutual

structure Selector where
  page : Option Text
  framePath : Option (List FrameRef)
  element : Option Element
  filters : Option Filters
  /-- Counted from zero, or from minus one at the end. -/
  nth : Option Int32

/-- Conditions on the element: a text or another element that it holds or does not hold. -/
structure Filters where
  hasText : Option TextMatcher
  hasNotText : Option TextMatcher
  visible : Option Bool
  has : Option Selector
  hasNot : Option Selector

end

/-! ## Equality -/

mutual

/-- Equality of selectors is decided part by part. -/
def Selector.decideEq : (a b : Selector) → Decidable (a = b)
  | ⟨page, path, element, filters, nth⟩, ⟨page', path', element', filters', nth'⟩ =>
    if h : page = page' ∧ path = path' ∧ element = element' ∧ nth = nth' then
      match decideEqFilters filters filters' with
      | isTrue h' => isTrue (by simp [h, h'])
      | isFalse h' => isFalse (by simp [h'])
    else isFalse (by simp; grind)

def decideEqFilters : (a b : Option Filters) → Decidable (a = b)
  | none, none => isTrue rfl
  | none, some _ | some _, none => isFalse (by simp)
  | some a, some b =>
    match Filters.decideEq a b with
    | isTrue h => isTrue (by rw [h])
    | isFalse h => isFalse (by simp [h])

def Filters.decideEq : (a b : Filters) → Decidable (a = b)
  | ⟨text, notText, visible, has, hasNot⟩, ⟨text', notText', visible', has', hasNot'⟩ =>
    if h : text = text' ∧ notText = notText' ∧ visible = visible' then
      match decideEqInner has has', decideEqInner hasNot hasNot' with
      | isTrue a, isTrue b => isTrue (by simp [h, a, b])
      | isFalse a, _ => isFalse (by simp [a])
      | _, isFalse b => isFalse (by simp [b])
    else isFalse (by simp; grind)

def decideEqInner : (a b : Option Selector) → Decidable (a = b)
  | none, none => isTrue rfl
  | none, some _ | some _, none => isFalse (by simp)
  | some a, some b =>
    match Selector.decideEq a b with
    | isTrue h => isTrue (by rw [h])
    | isFalse h => isFalse (by simp [h])

end

instance : DecidableEq Selector := Selector.decideEq

instance : DecidableEq Filters := Filters.decideEq

/-! ## Building selectors -/

namespace Filters

def none : Filters := ⟨.none, .none, .none, .none, .none⟩

/-- No condition is set. -/
def isEmpty (f : Filters) : Bool :=
  f.hasText.isNone && f.hasNotText.isNone && f.visible.isNone && f.has.isNone && f.hasNot.isNone

end Filters

namespace Selector

def ofElement (e : Element) : Selector := ⟨none, none, some e, none, none⟩

/-- What stands for a selector that was not recorded. -/
def unknownText : Text := "UNKNOWN"

/-- The selector of a text that cannot be read as one: the text itself, as a query. -/
def fallback (raw : Option Text) : Selector := ofElement (.css (raw.getD unknownText))

/-- Filters without a condition are left out. -/
def withFilters (f : Filters) (s : Selector) : Selector :=
  { s with filters := if f.isEmpty then none else some f }

/-- A path without frames is left out. -/
def withFramePath (path : List FrameRef) (s : Selector) : Selector :=
  { s with framePath := if path = [] then none else some path }

end Selector

end Scenarist

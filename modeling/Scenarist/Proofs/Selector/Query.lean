import Scenarist.Proofs.Attribute.Written
import Scenarist.Proofs.Chain.Written
import Scenarist.Selector.Recorded

/-! # Queries

What a recorder asks for and how it writes that: an element by what a reader knows it by, filters
on it, and its place. Every text is quoted, so it may hold any characters.
-/

namespace Scenarist

/-! ## What is asked for -/

/-- A text, and how its case counts. -/
structure Wording where
  text : Text
  mark : CaseMark

/-- An element by its role and the conditions on it. -/
structure RoleQuery where
  role : Text
  isName : Attribute.IsName role
  name : Option Wording
  checked : Option AriaState
  pressed : Option AriaState
  selected : Option AriaState
  expanded : Option AriaState
  disabled : Option AriaState
  includeHidden : Option Bool
  level : Option UInt32

/-- An element by what a reader knows it by. -/
inductive Target where
  | role (query : RoleQuery)
  | testId (id : Text)
  | text (wording : Wording)
  | label (wording : Wording)
  | placeholder (wording : Wording)
  | alt (wording : Wording)
  | title (wording : Wording)

/-- A target with at most one filter of each kind and a place. -/
structure Query where
  target : Target
  hasText : Option Wording
  hasNotText : Option Wording
  visible : Option Bool
  has : Option Query
  hasNot : Option Query
  nth : Option Int32

/-! ## What it means -/

def Wording.matcher : Wording → TextMatcher
  | ⟨t, .plain⟩ => .plain t
  | ⟨t, .exact⟩ => .exact t true
  | ⟨t, .ignoringCase⟩ => .exactIgnoreCase t

def RoleQuery.element (q : RoleQuery) : RoleElement :=
  ⟨q.role, q.name.map Wording.matcher, q.checked, q.pressed, q.selected, q.expanded, q.disabled,
    q.includeHidden, q.level⟩

def Target.element : Target → Element
  | .role q => .role q.element
  | .testId id => .testId id
  | .text w => .text w.matcher
  | .label w => .label w.matcher
  | .placeholder w => .placeholder w.matcher
  | .alt w => .alt w.matcher
  | .title w => .title w.matcher

mutual

def Query.toSelector : Query → Selector
  | ⟨target, hasText, hasNotText, visible, has, hasNot, nth⟩ =>
    let filters : Filters :=
      ⟨hasText.map Wording.matcher, hasNotText.map Wording.matcher, visible, Query.inner? has,
        Query.inner? hasNot⟩
    { (Selector.ofElement target.element).withFilters filters with nth }

def Query.inner? : Option Query → Option Selector
  | none => none
  | some q => some q.toSelector

end

/-! ## How it is written -/

/-- What a writer is free to choose: the orders of filters and of conditions on a role, and the
engine that asks for a placeholder. -/
structure Spelling where
  filters : List Part → List Part
  filters_perm : ∀ ps, (filters ps).Perm ps
  conditions : List Attribute → List Attribute
  conditions_perm : ∀ as, (conditions as).Perm as
  placeholderAsAttribute : Bool

/-- A text as a JSON string, with its letter. -/
def Wording.written (w : Wording) : Text := Json.quote w.text ++ w.mark.letters

/-- A text as an attribute. -/
def Wording.attribute (name : Text) (w : Wording) : Attribute := .ofQuoted name w.text w.mark

def AriaState.word : AriaState → Text
  | .on => "true"
  | .off => "false"
  | .mixed => "mixed"

def boolWord (b : Bool) : Text := if b then "true" else "false"

/-- What an option gives, if it gives something. -/
def listed {α β : Type} (f : α → β) (o : Option α) : List β := (o.map f).toList

theorem sublist_listed {α β : Type} (f : α → β) (g : β → Text) (name : Text)
    (h : ∀ a, g (f a) = name) (o : Option α) : ((listed f o).map g).Sublist [name] := by
  cases o with
  | none => exact List.nil_sublist _
  | some a => simp [listed, h]

theorem foldl_listed {α β γ : Type} (step : γ → β → γ) (f : α → β) (set : γ → Option α → γ)
    (hnone : ∀ c, set c none = c) (o : Option α)
    (hsome : ∀ c, ∀ a ∈ o, step c (f a) = set c (some a)) (c : γ) :
    (listed f o).foldl step c = set c o := by
  cases o with
  | none => exact (hnone c).symm
  | some a => exact hsome c a rfl

namespace RoleQuery

def nameCondition (w : Wording) : Attribute := w.attribute "name"

def stateCondition (name : Text) (s : AriaState) : Attribute := .ofWord name s.word

def hiddenCondition (b : Bool) : Attribute := .ofWord "include-hidden" (boolWord b)

def levelCondition (n : UInt32) : Attribute := .ofWord "level" (Text.ofNat n.toNat)

def conditions (q : RoleQuery) : List Attribute :=
  listed nameCondition q.name ++ (listed (stateCondition "checked") q.checked ++
    (listed (stateCondition "pressed") q.pressed ++
    (listed (stateCondition "selected") q.selected ++
    (listed (stateCondition "expanded") q.expanded ++
    (listed (stateCondition "disabled") q.disabled ++
    (listed hiddenCondition q.includeHidden ++ listed levelCondition q.level))))))

end RoleQuery

/-- The part that names the element. -/
def Target.part (s : Spelling) : Target → Part
  | .role q => .plain "internal:role"
    (q.role ++ (s.conditions q.conditions).flatMap Attribute.written)
  | .testId id => .plain "internal:testid" (Attribute.written (.ofQuoted "data-testid" id .exact))
  | .text w => .plain "internal:text" w.written
  | .label w => .plain "internal:label" w.written
  | .placeholder w =>
    if s.placeholderAsAttribute then .plain "internal:attr" (w.attribute "placeholder").written
    else .plain "internal:placeholder" w.written
  | .alt w => .plain "internal:attr" (w.attribute "alt").written
  | .title w => .plain "internal:attr" (w.attribute "title").written

namespace Query

def textPart (name : Text) (w : Wording) : Part := .plain name w.written

def visiblePart (b : Bool) : Part := .plain "visible" (boolWord b)

def nthPart (n : Int32) : Part := .plain "nth" (Text.ofInt n.toInt)

/-- The part that quotes a chain. -/
def innerPart (name : Text) (c : Chain) : Part := .nested name (Json.quote c.written) c none

/-- The parts behind the one that names the element, given the chains of inner queries. -/
def filterParts (hasText hasNotText : Option Wording) (visible : Option Bool)
    (has hasNot : Option Chain) (nth : Option Int32) : List Part :=
  listed (textPart "internal:has-text") hasText ++
    (listed (textPart "internal:has-not-text") hasNotText ++ (listed visiblePart visible ++
    (listed (innerPart "internal:has") has ++ (listed (innerPart "internal:has-not") hasNot ++
    listed nthPart nth))))

mutual

/-- The chain that asks for a query. -/
def chain (s : Spelling) : Query → Chain
  | ⟨target, hasText, hasNotText, visible, has, hasNot, nth⟩ =>
    ⟨target.part s :: s.filters (filterParts hasText hasNotText visible (innerChain? s has)
      (innerChain? s hasNot) nth), none⟩

def innerChain? (s : Spelling) : Option Query → Option Chain
  | none => none
  | some q => some (chain s q)

end

/-- A query as a text: its parts with double angle brackets between them. -/
def written (s : Spelling) (q : Query) : Text := (q.chain s).written

end Query

end Scenarist

import Scenarist.Selector.Basic

/-! # Selectors of recorded chains

One part of a chain, the base, names the element: the captured part, or else the last one that is
no filter. The parts behind it become filters and the place. What a selector cannot express is
dropped with a warning, and where not even the base can be expressed the whole chain becomes a
query.
-/

namespace Scenarist

/-- What was dropped or not understood. -/
inductive Warning where
  | unreadableChain (raw : Text) (fault : Chain.Fault)
  | droppedAncestor (name source : Text)
  | noElement (name : Text)
  | unsupportedEngine (engine : Text)
  | unreadableBody (body : Text) (fault : Attribute.Fault)
  | testIdWithoutValue (body : Text)
  | levelNotInteger (raw : Text)
  | unknownRoleAttribute (name : Text)
  | unknownState (name raw : Text)
  | attributeWithoutValue (body : Text)
  | unsupportedAttribute (name body : Text)
  | placeNotInteger (body : Text)
  | unsupportedFilter (engine : Text)
  | noInnerChain (name : Text)

def Warning.message : Warning → Text
  | .unreadableChain raw fault =>
    "unparseable selector `" ++ raw ++ "`: " ++ fault.message
  | .droppedAncestor name source =>
    "ancestor part `" ++ name ++ '=' :: source ++ "` is not representable and was dropped"
  | .noElement name => "`" ++ name ++ "` cannot name the target element"
  | .unsupportedEngine engine => "unsupported selector engine `" ++ engine ++ "`"
  | .unreadableBody body fault =>
    "unparseable attribute body `" ++ body ++ "`: " ++ fault.message
  | .testIdWithoutValue body => "test id selector `" ++ body ++ "` has no value"
  | .levelNotInteger raw => "role level `" ++ raw ++ "` is not an integer"
  | .unknownRoleAttribute name => "unknown role attribute `" ++ name ++ "`"
  | .unknownState name raw =>
    "role attribute `" ++ name ++ "` has unrecognized value `" ++ raw ++ "`"
  | .attributeWithoutValue body => "attribute selector `" ++ body ++ "` has no value"
  | .unsupportedAttribute name body =>
    "unsupported attribute `" ++ name ++ "` in `" ++ body ++ "`"
  | .placeNotInteger body => "nth index `" ++ body ++ "` is not an integer"
  | .unsupportedFilter engine =>
    "unsupported filter `" ++ engine ++ "` after the target element"
  | .noInnerChain name => "`" ++ name ++ "` has no nested selector"

/-- A result, with the warnings that arose on the way to it. -/
structure Noted (α : Type) where
  value : α
  warnings : List Warning

namespace Noted

def quiet {α : Type} (value : α) : Noted α := ⟨value, []⟩

/-- Goes on from the value; the later warnings come after the earlier ones. -/
def andThen {α β : Type} (a : Noted α) (f : α → Noted β) : Noted β :=
  let b := f a.value
  ⟨b.value, a.warnings ++ b.warnings⟩

def map {α β : Type} (f : α → β) (a : Noted α) : Noted β := ⟨f a.value, a.warnings⟩

end Noted

namespace Chain

/-! ## The base -/

/-- Engines that narrow what another part names. -/
def filterEngines : List Text :=
  ["has-text", "has-not-text", "has", "has-not", "visible", "nth"].map String.toList

/-- Engines that say nothing about the element. -/
def ignoredEngines : List Text := ["describe".toList]

/-- The part can name an element. -/
def canBeBase (p : Part) : Bool :=
  !Text.isOneOf p.engine filterEngines && !Text.isOneOf p.engine ignoredEngines

/-- The number of the last part that can name an element. -/
def lastBase? : List Part → Option Nat
  | [] => none
  | p :: r =>
    match lastBase? r with
    | some n => some (n + 1)
    | none => if canBeBase p then some 0 else none

/-- The number of the part that names the element. -/
def base? (c : Chain) : Option Nat :=
  (c.capture.filter (· < c.parts.length)).or (lastBase? c.parts)

/-! ## Attributes -/

def attributeBody (body : Text) : Noted (Option AttributeBody) :=
  match AttributeBody.read true body with
  | .ok b => .quiet (some b)
  | .error fault => ⟨none, [.unreadableBody body fault]⟩

def beginsQuoted (raw : Text) : Bool := raw.head? == some '"' || raw.head? == some '\''

/-- The matcher of an attribute's value. A quoted text with a letter behind it is meant exactly. -/
def attributeMatcher? (a : Attribute) : Option TextMatcher :=
  match a.value with
  | .regex pattern flags => some (.regex pattern flags)
  | .text t =>
    if beginsQuoted a.raw then
      if !a.caseSensitive then some (.exactIgnoreCase t)
      else if a.raw.getLast? = some 's' ∨ a.raw.getLast? = some 'S' then some (.exact t true)
      else some (.plain t)
    else some (.plain t)
  | v => v.toText?.map .plain

/-- The state that an attribute asks for. -/
def state (a : Attribute) : Noted (Option AriaState) :=
  match a.toAria? with
  | some s => .quiet (some s)
  | none => ⟨none, [.unknownState a.name a.raw]⟩

/-- The role with the condition of one more attribute. -/
def addCondition (r : RoleElement) (a : Attribute) : Noted RoleElement :=
  if a.name = "name" then .quiet { r with name := attributeMatcher? a }
  else if a.name = "include-hidden" then
    (state a).map fun s => { r with includeHidden := s.bind AriaState.toBool? }
  else if a.name = "checked" then (state a).map fun s => { r with checked := s }
  else if a.name = "pressed" then (state a).map fun s => { r with pressed := s }
  else if a.name = "selected" then (state a).map fun s => { r with selected := s }
  else if a.name = "expanded" then (state a).map fun s => { r with expanded := s }
  else if a.name = "disabled" then (state a).map fun s => { r with disabled := s }
  else if a.name = "level" then
    let level := a.value.toLevel?
    ⟨{ r with level }, if level.isNone then [.levelNotInteger a.raw] else []⟩
  else ⟨r, [.unknownRoleAttribute a.name]⟩

def addConditions (r : RoleElement) : List Attribute → Noted RoleElement
  | [] => .quiet r
  | a :: as => (addCondition r a).andThen fun r => addConditions r as

/-! ## The element -/

def testIdElement (body : Text) : Noted (Option Element) :=
  (attributeBody body).andThen fun b =>
    match b with
    | none => .quiet none
    | some b =>
      match b.attributes.head?.bind (·.value.toText?) with
      | some id => .quiet (some (.testId id))
      | none => ⟨none, [.testIdWithoutValue body]⟩

def roleElement (body : Text) : Noted (Option Element) :=
  (attributeBody body).andThen fun b =>
    match b with
    | none => .quiet none
    | some b => (addConditions (.ofRole b.name) b.attributes).map fun r => some (.role r)

/-- The element with this attribute, if there is a kind of element for it. -/
def attributeElement? (name : Text) (m : TextMatcher) : Option Element :=
  if name = "alt" then some (.alt m)
  else if name = "title" then some (.title m)
  else if name = "placeholder" then some (.placeholder m)
  else none

def attrElement (body : Text) : Noted (Option Element) :=
  (attributeBody body).andThen fun b =>
    match b.bind (·.attributes.head?) with
    | none => .quiet none
    | some a =>
      match attributeMatcher? a with
      | none => ⟨none, [.attributeWithoutValue body]⟩
      | some m =>
        match attributeElement? a.name m with
        | some e => .quiet (some e)
        | none => ⟨none, [.unsupportedAttribute a.name body]⟩

/-- The element that the base names, if it can be expressed. -/
def element (p : Part) : Noted (Option Element) :=
  match p.text? with
  | none => ⟨none, [.noElement p.name]⟩
  | some body =>
    let engine := p.engine
    if engine = "testid" then testIdElement body
    else if engine = "role" then roleElement body
    else if engine = "text" then .quiet (some (.text (.ofSpecifier body)))
    else if engine = "label" then .quiet (some (.label (.ofSpecifier body)))
    else if engine = "placeholder" then .quiet (some (.placeholder (.ofSpecifier body)))
    else if engine = "css" ∨ engine = "css:light" then .quiet (some (.css body))
    else if engine = "xpath" then .quiet (some (.xpath body))
    else if engine = "attr" then attrElement body
    else ⟨none, [.unsupportedEngine engine]⟩

/-! ## Filters -/

/-- The filters and the place so far. -/
structure Narrowing where
  filters : Filters
  nth : Option Int32

def Narrowing.none : Narrowing := ⟨.none, Option.none⟩

/-- The place that a body writes. -/
def place? (body : Text) : Option Int32 :=
  (Text.toInt? 10 (Text.trim body)).bind fun n =>
    if -0x80000000 ≤ n ∧ n < 0x80000000 then some (Int32.ofInt n) else Option.none

/-- The narrowing with what one more part says. `inner` is the selector of the chain it quotes. -/
def narrow (w : Narrowing) (p : Part) (inner : Noted (Option Selector)) : Noted Narrowing :=
  let body := p.source
  let engine := p.engine
  let filters := w.filters
  if engine = "has-text" then
    .quiet { w with filters := { filters with hasText := some (.ofSpecifier body) } }
  else if engine = "has-not-text" then
    .quiet { w with filters := { filters with hasNotText := some (.ofSpecifier body) } }
  else if engine = "visible" then
    .quiet { w with filters := { filters with visible := some (Text.trim body != "false".toList) } }
  else if engine = "has" then
    inner.map fun s => { w with filters := { filters with has := s } }
  else if engine = "has-not" then
    inner.map fun s => { w with filters := { filters with hasNot := s } }
  else if engine = "nth" then
    match place? body with
    | some n => .quiet { w with nth := some n }
    | none => ⟨w, [.placeNotInteger body]⟩
  else if engine.isOneOf ignoredEngines then .quiet w
  else ⟨w, [.unsupportedFilter engine]⟩

/-- The parts before the base that say something about the element. -/
def droppedAncestors (parts : List Part) : List Warning :=
  (parts.filter fun p => !Text.isOneOf p.engine ignoredEngines).map fun p =>
    .droppedAncestor p.name p.source

mutual

/-- The selector of a chain that is written as `raw`. -/
def toSelector (raw : Text) : Chain → Noted Selector
  | ⟨parts, capture⟩ =>
    let chain : Chain := ⟨parts, capture⟩
    match chain.base? with
    | none => .quiet (.ofElement (.css raw))
    | some base =>
      match parts[base]? with
      | none => .quiet (.ofElement (.css raw))
      | some part =>
        let e := element part
        match e.value with
        | none => ⟨.ofElement (.css chain.toText), e.warnings⟩
        | some target =>
          let dropped := droppedAncestors (parts.take base)
          let rest := narrowAll (base + 1) .none parts
          ⟨{ (Selector.ofElement target).withFilters rest.value.filters
            with nth := rest.value.nth }, e.warnings ++ dropped ++ rest.warnings⟩

/-- The narrowing by all parts but the first `skip`. -/
def narrowAll (skip : Nat) (w : Narrowing) : List Part → Noted Narrowing
  | [] => .quiet w
  | p :: r =>
    match skip with
    | n + 1 => narrowAll n w r
    | 0 => (narrow w p (innerSelector p)).andThen fun w => narrowAll 0 w r

/-- The selector of the chain that a part quotes. -/
def innerSelector : Part → Noted (Option Selector)
  | .plain name _ => ⟨none, [.noInnerChain name]⟩
  | .nested _ _ inner _ => (toSelector inner.toText inner).map some

end

end Chain

/-! ## Recorded texts -/

namespace Selector

/-- The selector of a recorded text, if it can be read. -/
def ofRecorded? (raw : Text) : Noted (Option Selector) :=
  match Chain.read raw with
  | .ok c => (c.toSelector raw).map some
  | .error fault => ⟨none, [.unreadableChain raw fault]⟩

/-- The selector of a recorded text. One that is absent or cannot be read is a query. -/
def ofRecorded (raw : Option Text) : Selector :=
  ((raw.bind fun t => (ofRecorded? t).value)).getD (fallback raw)

/-- What was noticed while a recorded text was resolved. -/
def warningsOf (raw : Option Text) : List Warning :=
  (raw.map fun t => (ofRecorded? t).warnings).getD []

/-- The number of the part of a recorded text that names the element. -/
def baseOf? (raw : Option Text) : Option Nat :=
  (raw.bind fun t => (Chain.read t).toOption).bind Chain.base?

end Selector

end Scenarist

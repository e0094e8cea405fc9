import Scenarist.Recording.Entry
import Scenarist.Selector.Secret
import Scenarist.Step.Basic
import Scenarist.Url.Origin

/-! # Steps of recorded entries

Every entry gives one step, but for those that go to a trivial address. An action that could not
be read becomes a step that carries it. With `debug`, the other steps carry the entry and what was
noticed about its selector. A text that was typed into a secret field is masked in the step, and
then in the entry that the step carries.
-/

namespace Scenarist

/-! ## Recorded values without secrets -/

/-- A recorded action with the mask in place of its text. -/
def Json.redacted (action : Json) : Json := action.replaceText "text" mask

/-- An action that could not be read is redacted if its selector is that of a secret field. -/
def RecordedAction.redactedPayload (payload : Json) : Json :=
  if (Selector.ofRecorded ((payload.get? "selector").bind Json.text?)).isSecret then
    payload.redacted
  else payload

/-! ## Expectations -/

/-- What a signal makes one expect. An address of the web is expected whole, and any other as a
part. -/
def Expectation.ofSignal? : Signal → Option Expectation
  | .navigation none => some (.navigation none none)
  | .navigation (some url) =>
    if Url.isAbsoluteHttp url then some (.navigation (some url) none)
    else some (.navigation none (some url))
  | .popup page => some (.popup page)
  | .download => some .download
  | .dialog _ kind message accepted => some (.dialog kind message accepted)
  | .unknown => none

/-- The expectations of all signals, if there are any. -/
def Expectation.ofSignals? (signals : List Signal) : Option (List Expectation) :=
  match signals.filterMap ofSignal? with
  | [] => none
  | expectations => some expectations

/-! ## Targets -/

/-- The page of a step, unless it is the first one. -/
def FramePlace.pageAlias? (f : FramePlace) : Option Text :=
  if f.page = firstPage then none else some f.page

/-- The selector of a step that is about a page. -/
def FramePlace.pageSelector? (f : FramePlace) : Option Selector :=
  f.pageAlias?.map fun page => ⟨some page, none, none, none, none⟩

/-- The selector of a step that is about an element in the frame. -/
def FramePlace.target (f : FramePlace) (raw : Option Text) : Selector :=
  { (Selector.ofRecorded raw).withFramePath (f.path.map FrameRef.ofRaw) with page := f.pageAlias? }

namespace Step

/-! ## Steps -/

/-- A click is single or double, and its count is kept when it is neither. -/
def ofClick (button : MouseButton) (modifiers clickCount : UInt32) : Step where
  action := if clickCount = 2 then .dblclick else .click
  button := if button = .left then none else some button
  modifiers := Modifier.ofMask? modifiers
  clickCount := if clickCount = 1 ∨ clickCount = 2 then none else some clickCount

/-- The step of a gesture, without its target. What is typed into a secret target is masked. That
something is visible is what a step asserts unless it says otherwise. -/
def ofGesture (target : Selector) : Gesture → Step
  | .click button modifiers clickCount => ofClick button modifiers clickCount
  | .fill text => { action := .fill, text := some (target.masked text) }
  | .press key modifiers =>
      { action := .press, key := some key, modifiers := Modifier.ofMask? modifiers }
  | .check => { action := .check }
  | .uncheck => { action := .uncheck }
  | .select options => { action := .select, options := some options }
  | .assertText text substring =>
    { action := .assertText, text := some text, substring := if substring then some true else none }
  | .assertValue value => { action := .assertValue, value := some value }
  | .assertChecked checked => { action := .assertChecked, checked := some checked }
  | .assertVisible visible =>
    { action := .assertVisible, visible := if visible = some false then some false else none }

/-- The step that goes to an address, relative to the base where that is possible. -/
def ofAddress? (base : Option Text) (frame : FramePlace) (url : Text) : Option Step :=
  if Url.isTrivial url then none
  else some {
    action := .navigate, url := some (Url.relativeTo base url), selector := frame.pageSelector? }

/-- The step of a deed; none for going to a trivial address. -/
def ofDeed? (base : Option Text) (frame : FramePlace) : Deed → Option Step
  | .navigate url => ofAddress? base frame url
  | .openPage url => ofAddress? base frame url
  | .closePage => some { action := .closePage, selector := frame.pageSelector? }
  | .onElement raw gesture =>
    let target := frame.target raw
    some { ofGesture target gesture with selector := some target }

/-- The recorded selector of a deed, if it is about an element. -/
def elementOf? : Deed → Option (Option Text)
  | .onElement raw _ => some raw
  | _ => none

/-- The step types the mask. -/
def isMasked (s : Step) : Bool := s.action = .fill ∧ s.text = some mask

/-- The entry that a step came from, and what was noticed about its selector. -/
def debugOf (e : Entry) (deed : Deed) : Json :=
  let raw := (elementOf? deed).join
  Json.sorted (.object [("action_in_context", e.toJson),
    ("warnings", .array ((Selector.warningsOf raw).map fun w => .string w.message)),
    ("base_index", .orNull (fun n => .orNull .number (Number.ofInt? n)) (Selector.baseOf? raw))])

/-- What a step carries with the text of its entry redacted. -/
def redactDebug (debug : Json) : Json :=
  debug.modify "action_in_context" (Json.modify "action" Json.redacted)

/-- What a step carries for debugging. Its entry is redacted if the step types the mask. -/
def debugFor (s : Step) (e : Entry) (deed : Deed) : Json :=
  if s.isMasked then redactDebug (debugOf e deed) else debugOf e deed

/-- The step of an entry, relative to a base. -/
def ofEntry? (base : Option Text) (debug : Bool) (e : Entry) : Option Step :=
  match e.action with
  | .unsupported name payload =>
    some { action := .unsupported name, debug := some (RecordedAction.redactedPayload payload) }
  | .known action => (ofDeed? base e.frame action.deed).map fun s =>
    { s with
      expectations := Expectation.ofSignals? action.signals
      debug := if debug then some (s.debugFor e action.deed) else none }

end Step

end Scenarist

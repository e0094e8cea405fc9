import Scenarist.Proofs.Step.Recorded

/-! # Steps without their defaults

The step of a recorded entry is written as a value tree, its defaults are left out, and what is left
is decoded as the step itself: with the selectors inside its selector, its frames, its expectations
and what it carries.
-/

namespace Scenarist

open Yaml

/-! ## What a step carries is not null -/

theorem RecordedAction.redactedPayload_ne_null {payload : Json} (h : payload ≠ .null) :
    redactedPayload payload ≠ .null := by
  rw [redactedPayload]
  split
  · cases payload with
    | object members => exact Json.noConfusion
    | _ => exact h
  · exact h

namespace Step

theorem debugFor_ne_null (s : Step) (e : Entry) (deed : Deed) : s.debugFor e deed ≠ .null := by
  obtain ⟨members, hmembers⟩ : ∃ members, debugOf e deed = .object members := ⟨_, rfl⟩
  rw [debugFor, hmembers]
  split <;> exact Json.noConfusion

/-- The step of an entry carries null only if the entry is null itself. -/
theorem debug_ne_null {base : Option Text} {debug : Bool} {e : Entry} {s : Step}
    (hnull : ∀ name, e.action ≠ .unsupported name .null) (h : ofEntry? base debug e = some s) :
    s.debug ≠ some .null := by
  obtain ⟨frame, action⟩ := e
  cases action with
  | unsupported name payload =>
    obtain rfl := Option.some.inj h
    have hpayload : payload ≠ .null := by
      rintro rfl
      exact hnull name rfl
    exact fun hdebug => RecordedAction.redactedPayload_ne_null hpayload (Option.some.inj hdebug)
  | known action =>
    obtain ⟨t, -, rfl⟩ := Option.map_eq_some_iff.mp h
    dsimp only
    split
    · exact fun hdebug => debugFor_ne_null _ _ _ (Option.some.inj hdebug)
    · simp

theorem action_ofDeed? {base : Option Text} {frame : FramePlace} {deed : Deed} {s : Step}
    (h : ofDeed? base frame deed = some s) (name : Text) : s.action ≠ .unsupported name := by
  have haddress : ∀ url, ofAddress? base frame url = some s → s.action ≠ .unsupported name := by
    intro url hurl
    unfold ofAddress? at hurl
    split at hurl
    · exact absurd hurl (by simp)
    · obtain rfl := Option.some.inj hurl
      simp
  cases deed with
  | navigate url => exact haddress url h
  | openPage url => exact haddress url h
  | closePage =>
    obtain rfl := Option.some.inj h
    simp
  | onElement raw gesture =>
    obtain rfl := Option.some.inj h
    cases gesture with
    | click button modifiers clickCount =>
      simp only [ofGesture, ofClick]
      split <;> simp
    | _ => simp [ofGesture]

theorem action_ne_nameless {base : Option Text} {debug : Bool} {e : Entry} {s : Step}
    (hname : ∀ payload, e.action ≠ .unsupported [] payload) (h : ofEntry? base debug e = some s) :
    s.action ≠ .unsupported [] := by
  obtain ⟨frame, action⟩ := e
  cases action with
  | unsupported name payload =>
    obtain rfl := Option.some.inj h
    rintro ⟨⟩
    exact hname payload rfl
  | known action =>
    obtain ⟨t, ht, rfl⟩ := Option.map_eq_some_iff.mp h
    exact action_ofDeed? ht []

/-! ## Decoding -/

/-- A tidy step is decoded from what is left of it, unless its tag names no kind or it carries
null. -/
theorem ofNode?_strip {s : Step} (h : s.IsTidy) (hkind : s.action ≠ .unsupported [])
    (hdebug : s.debug ≠ some .null) :
    ofNode? (.value (Yaml.strip (.ofJson s.toJson))) = some s := by
  have hcarried : s.withoutNull = s := by
    have hfilter : s.debug.filter (· ≠ .null) = s.debug := by
      cases hv : s.debug with
      | none => rfl
      | some v =>
        have hcarries : v ≠ .null := by
          rintro rfl
          exact hdebug hv
        rw [Option.filter_some, if_pos (by simpa using hcarries)]
    rw [withoutNull, hfilter]
  rw [Json.strip_ofJson]
  change ofNode? (.ofJson (s.jsonWith s.action.tag).strip) = some s
  rw [ofNode?_jsonWith faithful_ofJson h, StepKind.ofTag?_tag, if_neg hkind, hcarried]
  rfl

/-- No entry's step is changed by leaving out its defaults, unless the entry could not be read and
has no name or is null. -/
theorem ofEntry?_stripped {base : Option Text} {debug : Bool} {e : Entry} {s : Step}
    (hdecoded : e.IsDecoded)
    (hname : ∀ payload, e.action ≠ .unsupported [] payload)
    (hnull : ∀ name, e.action ≠ .unsupported name .null)
    (h : ofEntry? base debug e = some s) :
      ofNode? (.value (Yaml.strip (.ofJson s.toJson))) = some s :=
  ofNode?_strip (ofEntry?_spec hdecoded h).1 (action_ne_nameless hname h) (debug_ne_null hnull h)

/-- A click on the last of several elements, in a frame of a page that popped up. -/
theorem click_stripped :
    let raw : Text :=
  "li >> internal:has=\"internal:role=button[name=\\\"Buy\\\"s] >> nth=0\" >> visible=true >> nth=-1"
    let e : Entry := ⟨⟨"popup", ["iframe[name=\"shop\"]"]⟩,
      .known ⟨.onElement (some raw) (.click .right 9 3), [.navigation (some "/done"), .download]⟩⟩
    e.IsDecoded ∧ (∀ payload, e.action ≠ .unsupported [] payload) ∧
      (∀ name, e.action ≠ .unsupported name .null) ∧
      ∃ s, ofEntry? none true e = some s ∧
        ofNode? (.value (Yaml.strip (.ofJson s.toJson))) = some s := by
  intro raw e
  have hdecoded : e.IsDecoded := by simp [e, Entry.IsDecoded]
  have hname : ∀ payload, e.action ≠ .unsupported [] payload := by simp [e]
  have hnull : ∀ name, e.action ≠ .unsupported name .null := by simp [e]
  obtain ⟨s, hs⟩ : ∃ s, ofEntry? none true e = some s := ⟨_, rfl⟩
  exact ⟨hdecoded, hname, hnull, s, hs, ofEntry?_stripped hdecoded hname hnull hs⟩

end Step

end Scenarist

import Scenarist.Proofs.Selector.Formed
import Scenarist.Proofs.Step.Recorded

/-! # Steps are complete

The fields that a kind of step requires are listed once, and what is made of a recorded entry has
them, whatever the entry. A step about an element also says which one.
-/

namespace Scenarist

namespace Step

/-! ## What a kind requires -/

/-- Every field that the kind of the step requires is set. -/
structure IsComplete (s : Step) : Prop where
  selector : s.action.targetsElement = true → s.selector ≠ none
  url : s.action = .navigate → s.url ≠ none
  text : s.action = .fill ∨ s.action = .assertText → s.text ≠ none
  key : s.action = .press → s.key ≠ none
  value : s.action = .assertValue → s.value ≠ none

theorem missingField?_eq_none_iff (s : Step) : s.missingField? = none ↔ s.IsComplete := by
  have hselector : (s.action.targetsElement && s.selector.isNone) = true ↔
      ¬(s.action.targetsElement = true → s.selector ≠ none) := by
    rw [Bool.and_eq_true, Option.isNone_iff_eq_none, Classical.not_imp, not_ne_iff]
  unfold missingField?
  constructor
  · intro h
    split at h
    · cases h
    · rename_i hset
      refine ⟨not_not.mp (mt hselector.mpr hset), ?_, ?_, ?_, ?_⟩
      · intro hk hnone
        rw [hk, hnone] at h
        exact Option.some_ne_none _ h
      · rintro (hk | hk) hnone <;> rw [hk, hnone] at h <;> exact Option.some_ne_none _ h
      · intro hk hnone
        rw [hk, hnone] at h
        exact Option.some_ne_none _ h
      · intro hk hnone
        rw [hk, hnone] at h
        exact Option.some_ne_none _ h
  · intro h
    rw [if_neg (mt hselector.mp (not_not.mpr h.selector))]
    split
    · rename_i hk
      exact if_neg (mt Option.isNone_iff_eq_none.mp (h.url hk))
    · rename_i hk
      exact if_neg (mt Option.isNone_iff_eq_none.mp (h.text (.inl hk)))
    · rename_i hk
      exact if_neg (mt Option.isNone_iff_eq_none.mp (h.text (.inr hk)))
    · rename_i hk
      exact if_neg (mt Option.isNone_iff_eq_none.mp (h.key hk))
    · rename_i hk
      exact if_neg (mt Option.isNone_iff_eq_none.mp (h.value hk))
    · rfl

/-! ## Recorded entries -/

/-- A step about an element says which one. -/
def HasElement (s : Step) : Prop :=
  s.action.targetsElement = true → ∃ t ∈ s.selector, t.element ≠ none

theorem element_target (frame : FramePlace) (raw : Option Text) :
    (frame.target raw).element ≠ none := by
  obtain ⟨e, he, -⟩ := (Selector.formed_throughout raw _ (.refl _)).element
  have htarget : (frame.target raw).element = (Selector.ofRecorded raw).element := rfl
  rw [htarget, he]
  exact Option.some_ne_none e

theorem hasElement_ofDeed {base : Option Text} {frame : FramePlace} {deed : Deed} {s : Step}
    (h : ofDeed? base frame deed = some s) : s.HasElement := by
  have haddress : ∀ url, ofAddress? base frame url = some s → s.HasElement := by
    intro url hurl
    unfold ofAddress? at hurl
    split at hurl
    · cases hurl
    · obtain rfl := Option.some.inj hurl
      exact nofun
  cases deed with
  | navigate url => exact haddress url h
  | openPage url => exact haddress url h
  | closePage =>
    obtain rfl := Option.some.inj h
    exact nofun
  | onElement raw gesture =>
    obtain rfl := Option.some.inj h
    exact fun _ => ⟨frame.target raw, rfl, element_target frame raw⟩

theorem isComplete_ofEntry {base : Option Text} {debug : Bool} {e : Entry} {s : Step}
    (h : ofEntry? base debug e = some s) : s.IsComplete ∧ s.HasElement := by
  obtain ⟨frame, action⟩ := e
  cases action with
  | unsupported name payload =>
    obtain rfl := Option.some.inj h
    exact ⟨(missingField?_eq_none_iff _).mp rfl, nofun⟩
  | known action =>
    obtain ⟨t, ht, rfl⟩ := Option.map_eq_some_iff.mp h
    obtain ⟨-, -, hfields⟩ := ofDeed?_spec ht
    have helement : t.HasElement := hasElement_ofDeed ht
    exact ⟨(missingField?_eq_none_iff _).mp hfields, helement⟩

end Step

end Scenarist

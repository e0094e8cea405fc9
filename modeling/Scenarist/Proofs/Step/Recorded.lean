import Scenarist.Proofs.Selector.Resolved
import Scenarist.Proofs.Selector.Restored
import Scenarist.Proofs.Step.Restored
import Scenarist.Step.Recorded

/-! # Steps of recorded entries are tidy

Whatever was recorded, the step of an entry has the fields that its kind requires, and all that is
lost when it is written without defaults is null in place of what it carries.
-/

namespace Scenarist

open Json (IsFinite IsCanonical)

/-! ## Selectors

No selector that is made of a recorded text has a path without frames, neither itself nor one of
those inside it.
-/

namespace Selector

theorem isTidy_withFilters (e : Element) {f : Filters} (h : f.isTidy = true) (nth : Option Int32) :
    ({ (ofElement e).withFilters f with nth } : Selector).isTidy = true := by
  refine (isTidy_iff _).mpr ⟨by simp [withFilters, ofElement], fun g hg => ?_⟩
  simp only [withFilters, Option.mem_def] at hg
  split at hg
  · exact absurd hg (by simp)
  · obtain rfl := Option.some.inj hg
    exact h

end Selector

theorem Chain.FilterKind.isTidy_update {w : Narrowing} {inner : Option Selector}
    (hw : w.filters.isTidy = true)
    (hinner : ∀ s ∈ inner, s.isTidy = true) (k : FilterKind) (source : Text) :
    (k.update source inner w).filters.isTidy = true := by
  obtain ⟨hhas, hhasNot⟩ := (Filters.isTidy_iff _).mp hw
  refine (Filters.isTidy_iff _).mpr ?_
  cases k with
  | has => exact ⟨hinner, hhasNot⟩
  | hasNot => exact ⟨hhas, hinner⟩
  | hasText | hasNotText | visible | nth => exact ⟨hhas, hhasNot⟩

namespace Selector

theorem isTidy_ofRecorded (raw : Option Text) : (ofRecorded raw).isTidy = true := by
  have hresolvable : IsResolvable (·.isTidy = true) (·.isTidy = true) := {
    query := fun _ => rfl
    target := fun _ hf nth => isTidy_withFilters _ hf nth
    none := rfl
    update := Chain.FilterKind.isTidy_update }
  exact hresolvable.ofRecorded raw

end Selector

/-! ## Targets -/

theorem FramePlace.isTidy_target (f : FramePlace) (raw : Option Text) :
    (f.target raw).isTidy = true := by
  obtain ⟨-, hfilters⟩ := (Selector.isTidy_iff _).mp (Selector.isTidy_ofRecorded raw)
  refine (Selector.isTidy_iff _).mpr ⟨?_, hfilters⟩
  simp only [target, Selector.withFramePath]
  split <;> simp_all

theorem FramePlace.isTidy_pageSelector (f : FramePlace) :
    ∀ s ∈ f.pageSelector?, s.isTidy = true := by
  intro s hs
  obtain ⟨page, -, rfl⟩ := Option.map_eq_some_iff.mp hs
  rfl

/-! ## What was recorded -/

theorem isFinite_textArray (l : List Text) : IsFinite (.array (l.map .string)) := by
  refine .array _ fun v hv => ?_
  obtain ⟨t, -, rfl⟩ := List.mem_map.mp hv
  exact .string t

theorem Gesture.isFinite_members (g : Gesture) : ∀ m ∈ g.members, IsFinite m.2 := by
  cases g with
  | click button modifiers clickCount =>
    simp only [members, List.forall_mem_cons]
    exact ⟨.string _, .number _ rfl, .number _ rfl, by simp⟩
  | fill text =>
    simp only [members, List.forall_mem_cons]
    exact ⟨.string _, by simp⟩
  | press key modifiers =>
    simp only [members, List.forall_mem_cons]
    exact ⟨.string _, .number _ rfl, by simp⟩
  | check => simp [members]
  | uncheck => simp [members]
  | select options =>
    simp only [members, List.forall_mem_cons]
    exact ⟨isFinite_textArray options, by simp⟩
  | assertText text substring =>
    simp only [members, List.forall_mem_cons]
    exact ⟨.string _, .bool _, by simp⟩
  | assertValue value =>
    simp only [members, List.forall_mem_cons]
    exact ⟨.string _, by simp⟩
  | assertChecked checked =>
    simp only [members, List.forall_mem_cons]
    exact ⟨.bool _, by simp⟩
  | assertVisible visible =>
    simp only [members, List.forall_mem_cons]
    exact ⟨Json.isFinite_orNull .bool, by simp⟩

theorem Deed.isFinite_members (d : Deed) : ∀ m ∈ d.members, IsFinite m.2 := by
  cases d with
  | navigate url =>
    simp only [members, List.forall_mem_cons]
    exact ⟨.string _, by simp⟩
  | openPage url =>
    simp only [members, List.forall_mem_cons]
    exact ⟨.string _, by simp⟩
  | closePage => simp [members]
  | onElement selector gesture =>
    exact List.forall_mem_cons.mpr ⟨Json.isFinite_orNull .string, gesture.isFinite_members⟩

theorem Signal.isFinite_toJson (s : Signal) : IsFinite s.toJson := by
  have htext : ∀ o : Option Text, IsFinite (.orNull .string o) :=
    fun o => Json.isFinite_orNull .string
  cases s <;> refine .object _ ?_ <;> simp only [List.forall_mem_cons]
  · exact ⟨.string _, htext _, by simp⟩
  · exact ⟨.string _, htext _, by simp⟩
  · exact ⟨.string _, by simp⟩
  · exact ⟨.string _, htext _, htext _, htext _, Json.isFinite_orNull .bool, by simp⟩
  · exact ⟨.string _, by simp⟩

theorem Action.isFinite_toJson (a : Action) : IsFinite a.toJson := by
  refine .object _ ?_
  rw [List.forall_mem_append, List.forall_mem_cons]
  refine ⟨⟨.string _, a.deed.isFinite_members⟩,
    List.forall_mem_cons.mpr ⟨.array _ fun v hv => ?_, by simp⟩⟩
  obtain ⟨s, -, rfl⟩ := List.mem_map.mp hv
  exact s.isFinite_toJson

theorem FramePlace.isFinite_toJson (f : FramePlace) : IsFinite f.toJson := by
  refine .object _ ?_
  simp only [List.forall_mem_cons]
  exact ⟨.string _, isFinite_textArray _, by simp⟩

namespace Step

/-! ## What a step carries -/

theorem isCanonical_debugOf (frame : FramePlace) (a : Action) (deed : Deed) :
    IsCanonical (debugOf ⟨frame, .known a⟩ deed) := by
  have hentry : IsFinite (Entry.toJson ⟨frame, .known a⟩) := by
    refine .object _ ?_
    simp only [List.forall_mem_cons]
    exact ⟨frame.isFinite_toJson, a.isFinite_toJson, by simp⟩
  refine IsFinite.sorted (.object _ ?_)
  simp only [List.forall_mem_cons]
  refine ⟨hentry, .array _ fun v hv => ?_, Json.isFinite_orNull fun n => ?_, by simp⟩
  · obtain ⟨w, -, rfl⟩ := List.mem_map.mp hv
    exact .string _
  · rw [Number.ofInt?]
    split
    · exact .number _ rfl
    · exact .null

theorem isCanonical_debugFor (s : Step) (frame : FramePlace) (a : Action) (deed : Deed) :
    IsCanonical (s.debugFor ⟨frame, .known a⟩ deed) := by
  have hdebug := isCanonical_debugOf frame a deed
  rw [debugFor]
  split
  · exact hdebug.modify _ fun w hw => hw.modify _ fun u hu => hu.replaceText _ _
  · exact hdebug

end Step

theorem RecordedAction.isCanonical_redactedPayload {payload : Json} (h : IsCanonical payload) :
    IsCanonical (redactedPayload payload) := by
  rw [redactedPayload]
  split
  · exact h.replaceText _ _
  · exact h

/-! ## Steps -/

/-- What could not be read is kept as it was decoded: its numbers are finite, and the keys of its
objects are in order. -/
def Entry.IsDecoded (e : Entry) : Prop :=
  ∀ name payload, e.action = .unsupported name payload → IsCanonical payload

theorem Modifier.ofMask?_ne_nil (mask : UInt32) : ofMask? mask ≠ some [] := by
  unfold ofMask?
  dsimp only
  split
  · simp
  · rename_i hheld
    exact fun h => hheld (Option.some.inj h)

namespace Step

theorem modifiers_ofGesture (target : Selector) (g : Gesture) :
    (ofGesture target g).modifiers ≠ some [] := by
  cases g <;> first | exact Modifier.ofMask?_ne_nil _ | simp [ofGesture]

theorem ofDeed?_spec {base : Option Text} {frame : FramePlace} {deed : Deed} {s : Step}
    (h : ofDeed? base frame deed = some s) :
    (∀ t ∈ s.selector, t.isTidy = true) ∧ s.modifiers ≠ some [] ∧ s.missingField? = none := by
  have haddress : ∀ url, ofAddress? base frame url = some s →
      (∀ t ∈ s.selector, t.isTidy = true) ∧ s.modifiers ≠ some [] ∧ s.missingField? = none := by
    intro url hurl
    unfold ofAddress? at hurl
    split at hurl
    · exact absurd hurl (by simp)
    · obtain rfl := Option.some.inj hurl
      exact ⟨frame.isTidy_pageSelector, by simp, rfl⟩
  cases deed with
  | navigate url => exact haddress url h
  | openPage url => exact haddress url h
  | closePage =>
    obtain rfl := Option.some.inj h
    exact ⟨frame.isTidy_pageSelector, by simp, rfl⟩
  | onElement raw g =>
    obtain rfl := Option.some.inj h
    refine ⟨fun t ht => ?_, modifiers_ofGesture _ g, ?_⟩
    · obtain rfl := Option.some.inj ht
      exact frame.isTidy_target raw
    · cases g with
      | click button modifiers clickCount =>
        simp only [missingField?, ofGesture, ofClick]
        split <;> rfl
      | _ => rfl

/-- Every entry that was decoded gives a tidy step, with all that its kind requires. -/
theorem ofEntry?_spec {base : Option Text} {debug : Bool} {e : Entry} {s : Step} (he : e.IsDecoded)
    (h : ofEntry? base debug e = some s) : s.IsTidy ∧ s.missingField? = none := by
  obtain ⟨frame, action⟩ := e
  cases action with
  | unsupported name payload =>
    obtain rfl := Option.some.inj h
    refine ⟨⟨by simp, by simp, fun v hv => ?_⟩, rfl⟩
    obtain rfl := Option.some.inj hv
    exact RecordedAction.isCanonical_redactedPayload (he name payload rfl)
  | known action =>
    obtain ⟨t, ht, rfl⟩ := Option.map_eq_some_iff.mp h
    obtain ⟨hselector, hmodifiers, hfields⟩ := ofDeed?_spec ht
    refine ⟨⟨hselector, hmodifiers, fun v hv => ?_⟩, hfields⟩
    dsimp only at hv
    split at hv
    · obtain rfl := Option.some.inj hv
      exact isCanonical_debugFor t frame action action.deed
    · exact absurd hv (by simp)

end Step

end Scenarist

import Scenarist.Proofs.Draft.Run
import Scenarist.Proofs.Scenario.Reread
import Scenarist.Proofs.Scenario.Validity
import Scenarist.Proofs.Url.Host

/-! # Drafts that are read back

The document that a draft writes is read as the scenario that the draft holds exactly when that
scenario is readable. Its own flaws never keep it from being read: the name is not blank, and each
step has what its kind requires.
-/

namespace Scenarist

namespace Draft

/-! ## The invariant -/

def Event.IsDecoded : Event → Prop
  | .record e => e.IsDecoded
  | .close => True

/-- A name is not blank, and each step is tidy and has what its kind requires. -/
structure Sound (d : Draft) : Prop where
  name : ∀ t ∈ d.name, Text.trim t ≠ []
  steps : ∀ s ∈ d.steps, s.IsTidy ∧ s.missingField? = none

theorem trim_name_entitle (d : Draft) {h : Heading} (hname : ∀ t ∈ h.name, Text.trim t ≠ []) :
    ∀ t ∈ (d.entitle h).name, Text.trim t ≠ [] := by
  intro t ht
  rcases Option.or_eq_some_iff.mp ht with ht | ⟨-, ht⟩
  · exact hname t ht
  · obtain ⟨base, -, hhost⟩ := Option.bind_eq_some_iff.mp ht
    exact (Url.isVisible_hostOf hhost).trim_ne_nil

theorem Sound.entitle (d : Draft) {h : Heading} (hname : ∀ t ∈ h.name, Text.trim t ≠ []) :
    Sound (d.entitle h) := by
  exact ⟨trim_name_entitle d hname, by simp [Draft.entitle]⟩

theorem step?_spec {d : Draft} {event : Event} {s : Step} (hevent : event.IsDecoded)
    (h : d.step? event = some s) :
    s.IsTidy ∧ s.missingField? = none := by
  cases event with
  | record e => exact Step.ofEntry?_spec hevent h
  | close => exact absurd h (by simp [step?])

theorem Sound.respond {d : Draft} (h : d.Sound) (htitled : d.phase ≠ .untitled) {event : Event}
    (hevent : event.IsDecoded) : Sound (d.respond event).1 := by
  rcases respond_cases d event htitled with ⟨base, phase, -, -, -, heq⟩ | ⟨e, s, hstep, heq⟩
  · rw [heq]
    exact ⟨h.name, h.steps⟩
  · rw [heq, locate_eq]
    refine ⟨h.name, fun t ht => ?_⟩
    rcases List.mem_append.mp ht with ht | ht
    · exact h.steps t ht
    · obtain rfl := List.mem_singleton.mp ht
      exact step?_spec hevent hstep

theorem Sound.after {d : Draft} {text : Text} (h : d.Sound) (hwrote : Wrote d text)
    {events : List Event}
    (hevents : ∀ event ∈ events, event.IsDecoded) : Sound (d.after events) := by
  induction events generalizing d text with
  | nil => exact h
  | cons event events ih =>
    obtain ⟨hevent, hrest⟩ := List.forall_mem_cons.mp hevents
    exact ih (h.respond hwrote.titled hevent) (hwrote.respond event) hrest

/-! ## Reading -/

theorem flaw?_eq_none {d : Draft} (hname : ∀ t ∈ d.name, Text.trim t ≠ [])
    (hsteps : ∀ s ∈ d.steps, s.missingField? = none) : d.scenario.flaw? = none := by
  have hvisible : Text.trim d.scenario.name ≠ [] := by
    change Text.trim ((d.name.or (d.base.bind Url.hostOf?)).getD defaultName) ≠ []
    cases hor : d.name.or (d.base.bind Url.hostOf?) with
    | none => decide
    | some t =>
      exact trim_name_entitle d (h := ⟨d.base, d.name⟩) hname t hor
  exact Scenario.flaw?_eq_none_iff.mpr ⟨rfl, hvisible, hsteps⟩

theorem Sound.flaw?_eq_none {d : Draft} (h : d.Sound) : d.scenario.flaw? = none :=
  Draft.flaw?_eq_none h.name fun s hs => (h.steps s hs).2

/-- What was written of a sound draft with steps is read as its scenario exactly when that is
readable. -/
theorem Sound.ofYaml_iff {d : Draft} {text : Text} (h : d.Sound) (hwrote : Wrote d text)
    (hsteps : d.steps ≠ []) :
    Scenario.ofYaml text = .ok d.scenario ↔ d.scenario.IsReadable := by
  rcases hwrote.shape with ⟨-, hnil, -⟩ | ⟨-, -, rfl⟩
  · exact absurd hnil hsteps
  · rw [Scenario.ofYaml_eq_ok_iff, and_iff_left h.flaw?_eq_none]
    exact Scenario.ofNode?_read_iff _ _ fun s hs => (h.steps s hs).1

/-- The pieces that a draft writes under a heading are accepted and give its scenario in the end
exactly when that scenario is readable. -/
theorem fragments_read_back_iff (d : Draft) {heading : Heading} {events : List Event}
    (hname : ∀ t ∈ heading.name, Text.trim t ≠ []) (hevents : ∀ event ∈ events, event.IsDecoded)
    (hsteps : (d.entitle heading).yielded events ≠ []) :
    Scenario.ofYaml ((d.entitle heading).fragments events).flatten =
      .ok ((d.entitle heading).after events).scenario ↔
      ((d.entitle heading).after events).scenario.IsReadable := by
  have hstart := Wrote.entitle d heading
  have hwrote := hstart.after events
  rw [List.nil_append] at hwrote
  refine ((Sound.entitle d hname).after hstart hevents).ofYaml_iff hwrote ?_
  rwa [hstart.after_steps]

/-- The step of one key is read back. -/
theorem key_read_back :
    let press : Event :=
  .record (.onMainPage
      ⟨.onElement (some "internal:role=button[name=\"Save\"i]") (.press "Enter" 8), []⟩)
    let d := start true
    let heading : Heading := ⟨some "https://shop.example/cart", none⟩
    (∀ t ∈ heading.name, Text.trim t ≠ []) ∧ (∀ event ∈ [press, .close], event.IsDecoded) ∧
      (d.entitle heading).yielded [press, .close] ≠ [] ∧
      Scenario.ofYaml ((d.entitle heading).fragments [press, .close]).flatten =
        .ok ((d.entitle heading).after [press, .close]).scenario := by
  intro press d heading
  have hname : ∀ t ∈ heading.name, Text.trim t ≠ [] := by simp [heading]
  have hevents : ∀ event ∈ [press, .close], event.IsDecoded := by
    simp [press, Event.IsDecoded, Entry.IsDecoded, Entry.onMainPage]
  have hsteps : (d.entitle heading).yielded [press, .close] ≠ [] := by decide +kernel
  refine ⟨hname, hevents, hsteps, (fragments_read_back_iff d hname hevents hsteps).mpr ?_⟩
  refine ⟨by decide +kernel, by decide +kernel, by decide +kernel, ?_, by decide +kernel⟩
  exact Json.rereadValue?_eq_self.mp (by decide +kernel)

/-- The character that deletes is written as it is, and no document with it is accepted. -/
theorem delete_not_read_back :
    let press : Event := .record (.onMainPage ⟨.onElement (some "#query") (.press ['\x7f'] 0), []⟩)
    let d := (start false).entitle ⟨none, none⟩
    press.IsDecoded ∧ d.yielded [press] ≠ [] ∧
      Scenario.ofYaml (d.fragments [press]).flatten ≠ .ok (d.after [press]).scenario := by
  intro press d
  refine ⟨by simp [press, Event.IsDecoded, Entry.IsDecoded, Entry.onMainPage], by decide +kernel,
    fun h => ?_⟩
  have hread : (Yaml.Node.read? (d.fragments [press]).flatten).bind Scenario.ofNode? = none := by
    decide +kernel
  rw [Scenario.ofYaml, hread] at h
  exact absurd h (by simp)

end Draft

end Scenarist

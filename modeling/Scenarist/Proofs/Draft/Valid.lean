import Scenarist.Proofs.Draft.Lifecycle
import Scenarist.Proofs.Draft.Reread
import Scenarist.Proofs.Step.Complete

/-! # Drafts are valid

The scenario of a draft has no flaw at any point, whatever entries came in whatever order. All that
could be wrong with it is the name that it was given.
-/

namespace Scenarist.Draft

/-! ## The invariant -/

/-- The drafts that come about when no given name is blank. -/
inductive NamedReachable : Draft → Prop where
  | start (debug : Bool) : NamedReachable (start debug)
  | entitle (h : Heading) (hname : ∀ t ∈ h.name, Text.trim t ≠ []) {d : Draft} :
    NamedReachable d → NamedReachable (d.entitle h)
  | respond (event : Event) {d : Draft} : NamedReachable d → NamedReachable (d.respond event).1

/-- A name is not blank, and each step is complete and says which element it is about. -/
structure Valid (d : Draft) : Prop where
  name : ∀ t ∈ d.name, Text.trim t ≠ []
  steps : ∀ s ∈ d.steps, s.IsComplete ∧ s.HasElement

theorem Valid.start (debug : Bool) : Valid (start debug) := by
  constructor <;> simp [Draft.start]

theorem Valid.entitle (d : Draft) {h : Heading} (hname : ∀ t ∈ h.name, Text.trim t ≠ []) :
    Valid (d.entitle h) :=
  ⟨trim_name_entitle d hname, by simp [Draft.entitle]⟩

theorem Valid.ensureTitled {d : Draft} (h : d.Valid) : d.ensureTitled.Valid := by
  unfold Draft.ensureTitled
  split
  · exact .entitle d (by simp)
  · exact h

theorem Valid.append {d : Draft} (h : d.Valid) {s : Step} (hs : s.IsComplete ∧ s.HasElement) :
    (d.append s).Valid := by
  refine ⟨h.name, fun t ht => ?_⟩
  rcases List.mem_append.mp ht with ht | ht
  · exact h.steps t ht
  · obtain rfl := List.mem_singleton.mp ht
    exact hs

theorem Valid.respond {d : Draft} (h : d.Valid) (event : Event) : (d.respond event).1.Valid := by
  cases event with
  | close => exact ⟨h.name, h.steps⟩
  | record e =>
    have htitled := h.ensureTitled
    rcases record_cases d e with ⟨-, heq⟩ | ⟨s, hstep, heq⟩
    · rw [Draft.respond, heq]
      exact htitled
    · have hlocated : (d.ensureTitled.locate e).Valid := by
        rw [locate_eq]
        exact ⟨htitled.name, htitled.steps⟩
      rw [Draft.respond, heq]
      exact hlocated.append (Step.isComplete_ofEntry hstep)

theorem NamedReachable.valid {d : Draft} (h : d.NamedReachable) : d.Valid := by
  induction h with
  | start debug => exact .start debug
  | entitle heading hname => exact .entitle _ hname
  | respond event _ ih => exact ih.respond event

/-! ## All drafts -/

/-- The step of any entry is complete and says which element it is about, and a draft has no flaw at
any point when no given name is blank. -/
theorem flawless_throughout :
    (∀ base debug e s, Step.ofEntry? base debug e = some s → s.IsComplete ∧ s.HasElement) ∧
      ∀ d : Draft, d.NamedReachable →
        d.scenario.flaw? = none ∧ ∀ s ∈ d.scenario.steps, s.IsComplete ∧ s.HasElement := by
  refine ⟨fun _ _ _ _ => Step.isComplete_ofEntry, fun d hd => ?_⟩
  obtain ⟨hname, hsteps⟩ := hd.valid
  exact ⟨flaw?_eq_none hname fun s hs => s.missingField?_eq_none_iff.mpr (hsteps s hs).1, hsteps⟩

/-- An action that could not be read and a fill in a frame, the latter behind the end, under the
name of a host. -/
theorem flawless_unsupported_fill :
    let drag : Entry := ⟨⟨firstPage, []⟩, .unsupported "drag" (.object [("name", .string "drag")])⟩
    let fill : Entry := ⟨⟨"page1", ["iframe"]⟩, .known ⟨.onElement none (.fill "a"), []⟩⟩
    let d := ((start true).entitle ⟨some "https://shop.example/cart", none⟩).after [.record drag,
        .close, .record fill]
    d.NamedReachable ∧ d.scenario.steps.length = 2 ∧ d.scenario.flaw? = none ∧
      ∀ s ∈ d.scenario.steps, s.IsComplete ∧ s.HasElement := by
  intro drag fill d
  have hd : d.NamedReachable :=
    .respond (.record fill)
      (.respond .close (.respond (.record drag) (.entitle _ (by simp) (.start true))))
  exact ⟨hd, rfl, flawless_throughout.2 d hd⟩

end Scenarist.Draft

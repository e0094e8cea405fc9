import Scenarist.Proofs.Step.Complete
import Scenarist.Scenario.Document

/-! # What is checked of a scenario

A scenario is valid if its version is known, its name is not blank and each step of its list is
complete. The steps of its hooks are not looked at, so all steps of a valid scenario are complete
just if those of its hooks happen to be.
-/

namespace Scenarist

def Hooks.steps (h : Hooks) : List Step := h.setup ++ h.teardown

namespace Scenario

/-- The steps around those of the list. -/
def hookSteps (s : Scenario) : List Step := (s.hooks.map Hooks.steps).getD []

/-- Every step that the scenario holds. -/
def allSteps (s : Scenario) : List Step := s.hookSteps ++ s.steps

/-! ## Flaws -/

theorem stepFlaw?_eq_none_iff {steps : List Step} (index : Nat) :
    stepFlaw? index steps = none ↔ ∀ s ∈ steps, s.missingField? = none := by
  induction steps generalizing index with
  | nil => simp [stepFlaw?]
  | cons s r ih =>
    unfold stepFlaw?
    rw [List.forall_mem_cons, ← ih (index + 1)]
    split
    · rename_i field hfield
      simp [hfield]
    · rename_i hnone
      simp [hnone]

theorem flaw?_eq_none_iff {s : Scenario} :
    s.flaw? = none ↔
      s.version = currentVersion ∧ Text.trim s.name ≠ [] ∧
        ∀ t ∈ s.steps, t.missingField? = none := by
  unfold flaw?
  split
  · rename_i hversion
    simp [hversion]
  split
  · rename_i hname
    simp [hname]
  · rename_i hversion hname
    rw [stepFlaw?_eq_none_iff]
    simp [hname, not_not.mp hversion]

/-- A text is accepted just if it writes a scenario without a flaw. -/
theorem ofYaml_eq_ok_iff {s : Scenario} {t : Text} :
    ofYaml t = .ok s ↔ (Yaml.Node.read? t).bind ofNode? = some s ∧ s.flaw? = none := by
  unfold ofYaml
  cases (Yaml.Node.read? t).bind ofNode? with
  | none => simp
  | some s' =>
    dsimp only
    split
    · rename_i flaw hflaw
      constructor
      · intro h
        cases h
      · rintro ⟨⟨⟩, hnone⟩
        rw [hnone] at hflaw
        cases hflaw
    · rename_i hnone
      constructor
      · intro h
        obtain rfl := Except.ok.inj h
        exact ⟨rfl, hnone⟩
      · rintro ⟨⟨⟩, -⟩
        rfl

/-! ## What is promised -/

/-- A scenario has no flaw just if its version is known, its name is not blank and the steps of its
list are complete, and a text is accepted just if it writes such a scenario. Other hooks make no
difference to that. So all steps of an accepted scenario are complete just if those of its hooks
are. -/
theorem listed_steps_complete (s : Scenario) :
    (s.flaw? = none ↔
      s.version = currentVersion ∧ Text.trim s.name ≠ [] ∧ ∀ t ∈ s.steps, t.IsComplete) ∧
      (∀ t, ofYaml t = .ok s ↔ (Yaml.Node.read? t).bind ofNode? = some s ∧ s.flaw? = none) ∧
      (∀ hooks, { s with hooks }.flaw? = s.flaw?) ∧
      (s.flaw? = none → ((∀ t ∈ s.allSteps, t.IsComplete) ↔ ∀ t ∈ s.hookSteps, t.IsComplete)) := by
  have hvalid : s.flaw? = none ↔
      s.version = currentVersion ∧ Text.trim s.name ≠ [] ∧ ∀ t ∈ s.steps, t.IsComplete := by
    rw [flaw?_eq_none_iff]
    simp only [Step.missingField?_eq_none_iff]
  refine ⟨hvalid, fun t => ofYaml_eq_ok_iff, fun hooks => rfl, fun h => ?_⟩
  obtain ⟨-, -, hsteps⟩ := hvalid.mp h
  unfold allSteps
  rw [List.forall_mem_append]
  exact and_iff_left hsteps

/-- Filling in a coupon, after the shop was reset. -/
theorem listed_steps_complete_coupon :
    let reset : Step := { action := .navigate, url := some "/reset" }
    let coupon : Step :=
      { action := .fill, selector := some (.ofElement (.label (.plain "Coupon"))),
        text := some "SPRING" }
    let s : Scenario :=
      { ofHeading "checkout" none with hooks := some ⟨[reset], []⟩, steps := [coupon] }
    s.flaw? = none ∧ (∀ t ∈ s.allSteps, t.IsComplete) ∧ s.allSteps.length = 2 := by
  intro reset coupon s
  obtain ⟨-, -, -, hall⟩ := listed_steps_complete s
  have hvalid : s.flaw? = none := by decide
  refine ⟨hvalid, (hall hvalid).mpr fun t ht => ?_, rfl⟩
  obtain rfl := List.mem_singleton.mp ht
  exact (Step.missingField?_eq_none_iff _).mp rfl

/-- A click on nothing is accepted before the first step. -/
theorem click_in_hook_accepted :
    let document : Text :=
      "version: \"1.0\"\nname: \"checkout\"\nhooks:\n  setup:\n    - action: \"click\"\nsteps: []\n"
    ∃ s, ofYaml document = .ok s ∧ s.flaw? = none ∧ ¬∀ t ∈ s.allSteps, t.IsComplete := by
  intro document
  let s : Scenario := { ofHeading "checkout" none with hooks := some ⟨[{ action := .click }], []⟩ }
  have hread : (Yaml.Node.read? document).bind ofNode? = some s := by decide +kernel
  refine ⟨s, ofYaml_eq_ok_iff.mpr ⟨hread, by decide⟩, by decide, fun hall => ?_⟩
  have hclick := hall { action := .click } List.mem_cons_self
  exact hclick.selector rfl rfl

end Scenario

end Scenarist

import Scenarist.Proofs.Draft.Run

/-! # The life of a draft

A draft is entitled, told of entries and closed in any order and any number of times. Its phase and
its header always agree with its steps, and an entry either adds one step, with its piece of the
document, or leaves everything that was written as it is.
-/

namespace Scenarist

/-! ## Entries without a step -/

theorem Step.inferredBase?_of_ofEntry? {base : Option Text} {debug : Bool} {e : Entry}
    (h : Step.ofEntry? base debug e = none) : Draft.inferredBase? e = none := by
  have haddress : ∀ frame url, ofAddress? base frame url = none → Url.isTrivial url = true := by
    intro frame url hurl
    unfold ofAddress? at hurl
    split at hurl
    · assumption
    · exact absurd hurl (by simp)
  obtain ⟨frame, action⟩ := e
  cases action with
  | unsupported name payload => exact absurd h (by simp [ ofEntry?])
  | known action =>
    obtain ⟨deed, signals⟩ := action
    have hdeed : ofDeed? base frame deed = none := Option.map_eq_none_iff.mp h
    cases deed with
    | navigate url => simp [Draft.inferredBase?, Draft.addressOf?, haddress frame url hdeed]
    | openPage url => simp [Draft.inferredBase?, Draft.addressOf?, haddress frame url hdeed]
    | closePage => exact absurd hdeed (by simp [ofDeed?])
    | onElement raw gesture => exact absurd hdeed (by simp [ofDeed?])

namespace Draft

/-! ## The invariant -/

/-- The drafts that come about from a new one. -/
inductive Reachable : Draft → Prop where
  | start (debug : Bool) : Reachable (start debug)
  | entitle (h : Heading) {d : Draft} : Reachable d → Reachable (d.entitle h)
  | respond (event : Event) {d : Draft} : Reachable d → Reachable (d.respond event).1

/-- What the phase, the header and the steps of a draft say of each other. -/
structure Consistent (d : Draft) : Prop where
  headed : d.headed = true ↔ d.steps ≠ []
  untitled : d.phase = .untitled → d.steps = [] ∧ d.base = none ∧ d.name = none
  titled : d.phase = .titled → d.steps = []
  written : d.phase = .written → d.steps ≠ []

theorem Consistent.start (debug : Bool) : Consistent (start debug) :=
  ⟨by simp [Draft.start], fun _ => ⟨rfl, rfl, rfl⟩, fun _ => rfl, by simp [Draft.start]⟩

theorem Consistent.entitle (h : Heading) (d : Draft) : Consistent (d.entitle h) :=
  ⟨by simp [Draft.entitle], by simp [Draft.entitle], fun _ => rfl, by simp [Draft.entitle]⟩

theorem Consistent.close {d : Draft} (h : d.Consistent) : d.close.Consistent :=
  ⟨h.headed, by simp [Draft.close], by simp [Draft.close], by simp [Draft.close]⟩

theorem Consistent.append (d : Draft) (s : Step) : (d.append s).Consistent := by
  have hsteps : (d.append s).steps ≠ [] := by simp [Draft.append]
  have hphase : (d.append s).phase = .closed ∨ (d.append s).phase = .written := by
    unfold Draft.append
    dsimp only
    split
    · exact .inl rfl
    · exact .inr rfl
  refine ⟨iff_of_true rfl hsteps, fun hp => ?_, fun hp => ?_, fun _ => hsteps⟩
  · rcases hphase with h | h <;> exact absurd (h.symm.trans hp) (by decide)
  · rcases hphase with h | h <;> exact absurd (h.symm.trans hp) (by decide)

/-! ## One entry -/

theorem Consistent.ensureTitled_eq {d : Draft} (h : d.Consistent) :
    d.ensureTitled = { d with phase := d.ensureTitled.phase } := by
  by_cases hphase : d.phase = .untitled
  · obtain ⟨hsteps, hbase, hname⟩ := h.untitled hphase
    have hheaded : d.headed = false := by
      rw [← Bool.not_eq_true, h.headed]
      exact not_not_intro hsteps
    obtain ⟨debug, phase, base, name, headed, steps⟩ := d
    dsimp only at hsteps hbase hname hheaded hphase
    subst hsteps hbase hname hheaded hphase
    rfl
  · rw [ensureTitled, if_neg hphase]

theorem Consistent.ensureTitled {d : Draft} (h : d.Consistent) : d.ensureTitled.Consistent := by
  by_cases hphase : d.phase = .untitled
  · rw [Draft.ensureTitled, if_pos hphase]
    exact .entitle _ d
  · rwa [Draft.ensureTitled, if_neg hphase]

/-- An entry that yields no step gives a draft its heading, if it had none, and nothing else. The
base is not changed either, since the address would not have been trivial. -/
theorem record_cases (d : Draft) (e : Entry) :
    (d.step? (.record e) = none ∧ d.record e = (d.ensureTitled, [])) ∨
    ∃ s, d.step? (.record e) = some s ∧
      d.record e = ((d.ensureTitled.locate e).append s, (d.ensureTitled.locate e).piece s) := by
  cases hstep : d.step? (.record e) with
  | none =>
    refine .inl ⟨rfl, ?_⟩
    have hbase : d.ensureTitled.locate e = d.ensureTitled := by
      have hinferred := Step.inferredBase?_of_ofEntry? hstep
      unfold locate
      split
      · rfl
      · rw [hinferred, Option.or_none]
    simp only [step?] at hstep
    simp only [record, hstep]
    rw [hbase]
  | some s =>
    refine .inr ⟨s, rfl, ?_⟩
    simp only [step?] at hstep
    simp only [record, hstep]

theorem Consistent.respond {d : Draft} (h : d.Consistent) (event : Event) :
    (d.respond event).1.Consistent := by
  cases event with
  | close => exact h.close
  | record e =>
    rcases record_cases d e with ⟨-, heq⟩ | ⟨s, -, heq⟩
    · rw [Draft.respond, heq]
      exact h.ensureTitled
    · rw [Draft.respond, heq]
      exact .append _ s

theorem Reachable.consistent {d : Draft} (h : d.Reachable) : d.Consistent := by
  induction h with
  | start debug => exact .start debug
  | entitle heading => exact .entitle heading _
  | respond event _ ih => exact ih.respond event

/-! ## What an entry does -/

/-- Nothing is written, and nothing that was written changes. -/
structure Passes (d : Draft) (r : Draft × Text) : Prop where
  text : r.2 = []
  steps : r.1.steps = d.steps
  headed : r.1.headed = d.headed
  base : r.1.base = d.base

/-- One step comes last, and its item is written, behind the header if that was not there. -/
structure Adds (d : Draft) (s : Step) (r : Draft × Text) : Prop where
  text : r.2 = (if d.headed then [] else r.1.heading.headerYaml ++ Scenario.stepsLine) ++ s.toYaml
  steps : r.1.steps = d.steps ++ [s]
  headed : r.1.headed = true
  base : d.headed = true → r.1.base = d.base

theorem Consistent.record_spec {d : Draft} (h : d.Consistent) (e : Entry) :
    (d.step? (.record e) = none ∧ d.Passes (d.record e)) ∨
      ∃ s, d.step? (.record e) = some s ∧ d.Adds s (d.record e) := by
  have htitled := h.ensureTitled_eq
  rcases record_cases d e with ⟨hstep, heq⟩ | ⟨s, hstep, heq⟩
  · refine .inl ⟨hstep, ?_⟩
    rw [heq, htitled]
    exact ⟨rfl, rfl, rfl, rfl⟩
  · refine .inr ⟨s, hstep, ?_⟩
    rw [heq, locate_eq, htitled]
    refine ⟨rfl, rfl, rfl, fun hheaded => ?_⟩
    have hbase := congrArg base (locate_headed { d with phase := d.ensureTitled.phase } e hheaded)
    exact hbase

/-! ## What no event changes -/

theorem Consistent.base_respond {d : Draft} (h : d.Consistent) (event : Event)
    (hheaded : d.headed = true) :
    (d.respond event).1.headed = true ∧ (d.respond event).1.base = d.base := by
  cases event with
  | close => exact ⟨hheaded, rfl⟩
  | record e =>
    rcases h.record_spec e with ⟨-, hpasses⟩ | ⟨s, -, hadds⟩
    · exact ⟨hpasses.headed.trans hheaded, hpasses.base⟩
    · exact ⟨hadds.headed, hadds.base hheaded⟩

theorem Consistent.base_after {d : Draft} (h : d.Consistent) (events : List Event)
    (hheaded : d.headed = true) :
    (d.after events).base = d.base := by
  induction events generalizing d with
  | nil => rfl
  | cons event events ih =>
    obtain ⟨hheaded', hbase⟩ := h.base_respond event hheaded
    exact (ih (h.respond event) hheaded').trans hbase

theorem closed_respond {d : Draft} (h : d.phase = .closed) (event : Event) :
    (d.respond event).1.phase = .closed := by
  have htitled : d.ensureTitled = d := ensureTitled_eq d (by rw [h]; decide)
  cases event with
  | close => rfl
  | record e =>
    rcases record_cases d e with ⟨-, heq⟩ | ⟨s, -, heq⟩
    · rw [respond, heq, htitled]
      exact h
    · rw [respond, heq, htitled, locate_eq]
      exact if_pos h

theorem closed_after {d : Draft} (h : d.phase = .closed) (events : List Event) :
    (d.after events).phase = .closed := by
  induction events generalizing d with
  | nil => exact h
  | cons event events ih => exact ih (closed_respond h event)

/-! ## All drafts -/

/-- However a draft came about, its phase and header agree with its steps, and every entry passes or
adds one step. The base of a written header and the end of the document last until the next
heading. -/
theorem reachable_spec {d : Draft} (h : d.Reachable) :
    d.Consistent ∧
      (∀ e, (d.step? (.record e) = none ∧ d.Passes (d.record e)) ∨
        ∃ s, d.step? (.record e) = some s ∧ d.Adds s (d.record e)) ∧
      (d.headed = true → ∀ events, (d.after events).base = d.base) ∧
      (d.phase = .closed → ∀ events, (d.after events).phase = .closed) :=
  have hd := h.consistent
  ⟨hd, hd.record_spec, fun hheaded events => hd.base_after events hheaded, fun hclosed =>
    closed_after hclosed⟩

/-- A draft that was closed before it had a heading, and then got one step. -/
theorem reachable_after_close :
    let press : Event := .record (.onMainPage ⟨.onElement (some "#query") (.press "Enter" 0), []⟩)
    let d := (((start false).respond .close).1.respond press).1
    d.Reachable ∧ d.Consistent ∧ d.headed = true ∧ d.phase = .closed ∧
      (∀ events, (d.after events).base = none) ∧ ∀ events, (d.after events).phase = .closed := by
  intro press d
  have hd : d.Reachable := .respond press (.respond .close (.start false))
  obtain ⟨hconsistent, -, hbase, hclosed⟩ := reachable_spec hd
  exact ⟨hd, hconsistent, rfl, rfl, hbase rfl, hclosed rfl⟩

end Draft

end Scenarist

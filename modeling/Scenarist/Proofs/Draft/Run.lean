import Scenarist.Draft.Basic

/-! # Runs of drafts

The pieces that a draft writes one by one are the document of the scenario that it holds in the
end, whatever entries come in whatever order, and also when some come after the end.
-/

namespace Scenarist.Draft

/-! ## Runs -/

/-- What a draft is told after its heading. -/
inductive Event where
  | record (e : Entry)
  | close

/-- The draft after an event, and the piece of the document for it. -/
def respond (d : Draft) : Event → Draft × Text
  | .record e => d.record e
  | .close => (d.close, [])

/-- The step that an event yields. -/
def step? (d : Draft) : Event → Option Step
  | .record e =>
    let d := d.ensureTitled.locate e
    Step.ofEntry? d.base d.debug e
  | .close => none

/-- The draft after all these events. -/
def after (d : Draft) : List Event → Draft
  | [] => d
  | event :: r => (d.respond event).1.after r

/-- The pieces of the document for these events. -/
def fragments (d : Draft) : List Event → List Text
  | [] => []
  | event :: r => (d.respond event).2 :: (d.respond event).1.fragments r

/-- The steps that these events yield. -/
def yielded (d : Draft) : List Event → List Step
  | [] => []
  | event :: r => (d.step? event).toList ++ (d.respond event).1.yielded r

/-! ## One event -/

theorem ensureTitled_eq (d : Draft) (h : d.phase ≠ .untitled) : d.ensureTitled = d := by
  rw [ensureTitled, if_neg h]

theorem locate_headed (d : Draft) (e : Entry) (h : d.headed = true) : d.locate e = d := by
  rw [locate, if_pos h]

theorem locate_eq (d : Draft) (e : Entry) : d.locate e = { d with base := (d.locate e).base } := by
  unfold locate
  split <;> rfl

theorem respond_cases (d : Draft) (event : Event) (h : d.phase ≠ .untitled) :
    (∃ base phase, d.step? event = none ∧ phase ≠ .untitled ∧ (d.headed = true → base = d.base) ∧
      d.respond event = ({ d with base, phase }, [])) ∨
    ∃ e s, d.step? event = some s ∧
      d.respond event = ((d.locate e).append s, (d.locate e).piece s) := by
  cases event with
  | close => exact .inl ⟨d.base, .closed, rfl, by decide, fun _ => rfl, rfl⟩
  | record e =>
    cases hstep : d.step? (.record e) with
    | none =>
      refine .inl ⟨(d.locate e).base, d.phase, rfl, h, ?_, ?_⟩
      · intro hheaded
        rw [locate_headed d e hheaded]
      · simp only [step?, ensureTitled_eq d h] at hstep
        simp only [respond, record, ensureTitled_eq d h, hstep]
        rw [← locate_eq]
    | some s =>
      refine .inr ⟨e, s, rfl, ?_⟩
      simp only [step?, ensureTitled_eq d h] at hstep
      simp only [respond, record, ensureTitled_eq d h, hstep]

/-! ## The invariant -/

/-- What was written since the heading: nothing while there is no step, and then the document of
the scenario so far. -/
structure Wrote (d : Draft) (text : Text) : Prop where
  titled : d.phase ≠ .untitled
  shape : (d.headed = false ∧ d.steps = [] ∧ text = []) ∨
    (d.headed = true ∧ d.steps ≠ [] ∧ text = d.scenario.toYaml)

theorem Wrote.entitle (d : Draft) (h : Heading) : Wrote (d.entitle h) [] :=
  ⟨by simp [Draft.entitle], .inl ⟨rfl, rfl, rfl⟩⟩

theorem toYaml_steps (d : Draft) (h : d.steps ≠ []) :
    d.scenario.toYaml = d.heading.headerYaml ++
      (Scenario.stepsLine ++ d.steps.flatMap Step.toYaml) := by
  have hsteps : d.scenario.steps = d.steps := rfl
  have hheader : d.scenario.headerYaml = d.heading.headerYaml := rfl
  rw [Scenario.toYaml, hsteps, hheader, if_neg h]

theorem Wrote.append {d : Draft} {text : Text} (h : Wrote d text) (s : Step) :
    Wrote (d.append s) (text ++ d.piece s) := by
  have hheading : (d.append s).heading = d.heading := rfl
  have hsteps : (d.append s).steps = d.steps ++ [s] := rfl
  refine ⟨?_, .inr ⟨rfl, by simp [hsteps], ?_⟩⟩
  · unfold Draft.append
    dsimp only
    split <;> decide
  · rw [toYaml_steps _ (by simp [hsteps]), hheading, hsteps]
    rcases h.shape with ⟨hheaded, hnil, rfl⟩ | ⟨hheaded, hne, rfl⟩
    · simp [piece, hheaded, hnil]
    · simp [piece, hheaded, toYaml_steps d hne]

theorem Wrote.rebase {d : Draft} {text : Text} (h : Wrote d text) (base : Option Text)
    (phase : Phase)
    (hphase : phase ≠ .untitled) (hbase : d.headed = true → base = d.base) :
    Wrote { d with base, phase } text := by
  refine ⟨hphase, ?_⟩
  rcases h.shape with ⟨hheaded, hnil, rfl⟩ | ⟨hheaded, hne, rfl⟩
  · exact .inl ⟨hheaded, hnil, rfl⟩
  · rw [hbase hheaded]
    exact .inr ⟨hheaded, hne, rfl⟩

theorem Wrote.locate {d : Draft} {text : Text} (h : Wrote d text) (e : Entry) :
    Wrote (d.locate e) text := by
  rw [locate_eq]
  exact h.rebase _ d.phase h.titled fun hheaded => by rw [locate_headed d e hheaded]

theorem Wrote.respond {d : Draft} {text : Text} (h : Wrote d text) (event : Event) :
    Wrote (d.respond event).1 (text ++ (d.respond event).2) := by
  rcases respond_cases d event h.titled with ⟨base, phase, -, hphase, hbase, heq⟩ | ⟨e, s, -, heq⟩
  · rw [heq, List.append_nil]
    exact h.rebase base phase hphase hbase
  · rw [heq]
    exact (h.locate e).append s

theorem respond_steps {d : Draft} (h : d.phase ≠ .untitled) (event : Event) :
    (d.respond event).1.steps = d.steps ++ (d.step? event).toList := by
  rcases respond_cases d event h with ⟨base, phase, hstep, -, -, heq⟩ | ⟨e, s, hstep, heq⟩
  · rw [heq, hstep]
    simp
  · rw [heq, hstep, append, locate_eq]
    rfl

/-! ## All events -/

theorem Wrote.after {d : Draft} {text : Text} (h : Wrote d text) (events : List Event) :
    Wrote (d.after events) (text ++ (d.fragments events).flatten) := by
  induction events generalizing d text with
  | nil => simpa [Draft.after, fragments] using h
  | cons event events ih =>
    have := ih (h.respond event)
    simpa [Draft.after, fragments] using this

theorem Wrote.after_steps {d : Draft} {text : Text} (h : Wrote d text) (events : List Event) :
    (d.after events).steps = d.steps ++ d.yielded events := by
  induction events generalizing d text with
  | nil => simp [Draft.after, yielded]
  | cons event events ih =>
    rw [Draft.after, ih (h.respond event), respond_steps h.titled, yielded, List.append_assoc]

/-- What is written piece by piece after a heading is the document of the scenario in the end, or
nothing if no event yields a step. -/
theorem fragments_eq_document (d : Draft) (h : Heading) (events : List Event) :
    ((d.entitle h).fragments events).flatten =
      if (d.entitle h).yielded events = [] then []
      else ((d.entitle h).after events).scenario.toYaml := by
  have hwrote := (Wrote.entitle d h).after events
  have hsteps : ((d.entitle h).after events).steps = (d.entitle h).yielded events := by
    rw [(Wrote.entitle d h).after_steps]
    rfl
  rcases hwrote.shape with ⟨-, hnil, htext⟩ | ⟨-, hne, htext⟩
  · rw [if_pos (hsteps ▸ hnil)]
    simpa using htext
  · rw [if_neg (hsteps ▸ hne)]
    simpa using htext

end Scenarist.Draft

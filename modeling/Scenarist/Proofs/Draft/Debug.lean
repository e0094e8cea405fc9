import Scenarist.Proofs.Draft.Transcript

/-! # Drafts for debugging

With `debug` the steps of known actions carry what was recorded. A session that is run with it and
without it goes the same way: only what these steps carry is left out.
-/

namespace Scenarist

namespace Step

/-- The step without what it carries for debugging. An action that could not be read is carried in
any case. -/
def withoutDebug (s : Step) : Step :=
  if Transcript.isUnsupported s then s else { s with debug := none }

theorem withoutDebug_unsupported {s : Step} (h : Transcript.isUnsupported s = true) :
    s.withoutDebug = s := if_pos h

theorem withoutDebug_known {s : Step} (h : Transcript.isUnsupported s = false) :
    s.withoutDebug = { s with debug := none } :=
  if_neg (by rw [h]; decide)

theorem isUnsupported_withoutDebug (s : Step) :
    Transcript.isUnsupported s.withoutDebug = Transcript.isUnsupported s := by
  unfold withoutDebug
  split <;> rfl

theorem withoutDebug_twice (s : Step) : s.withoutDebug.withoutDebug = s.withoutDebug := by
  cases h : Transcript.isUnsupported s with
  | true => rw [withoutDebug_unsupported h, withoutDebug_unsupported h]
  | false =>
    rw [withoutDebug_known ((isUnsupported_withoutDebug s).trans h), withoutDebug_known h]

theorem ofEntry?_withoutDebug (base : Option Text) (debug : Bool) (e : Entry) :
    ( ofEntry? base debug e).map withoutDebug = ofEntry? base false e := by
  cases hstep : ofEntry? base debug e with
  | none =>
    have hnone := ofEntry?_isNone base debug e
    rw [hstep, ← ofEntry?_isNone base false e] at hnone
    exact (Option.isNone_iff_eq_none.mp hnone.symm).symm
  | some s =>
    have hkind := isUnsupported_of_ofEntry? hstep
    obtain ⟨frame, action⟩ := e
    cases action with
    | unsupported name payload =>
      rw [Option.map_some, withoutDebug_unsupported hkind]
      exact hstep.symm
    | known action =>
      obtain ⟨t, hdeed, rfl⟩ := Option.map_eq_some_iff.mp hstep
      rw [Option.map_some, withoutDebug_known hkind]
      simp [ ofEntry?, hdeed]

theorem toYaml_ne_nil (s : Step) : s.toYaml ≠ [] := by
  simp [toYaml, Yaml.blockItem, Yaml.blockItems]

end Step

namespace Draft

/-! ## One event -/

/-- The draft as it is without debugging. -/
def plain (d : Draft) : Draft := { d with debug := false, steps := d.steps.map Step.withoutDebug }

/-- Pieces of the document for the same step behind the same header, or for none. -/
inductive SamePiece : Text → Text → Prop where
  | none : SamePiece [] []
  | item (header : Text) (s : Step) :
      SamePiece (header ++ s.toYaml) (header ++ s.withoutDebug.toYaml)

theorem SamePiece.isEmpty_eq {f g : Text} (h : SamePiece f g) : f.isEmpty = g.isEmpty := by
  cases h with
  | none => rfl
  | item header s =>
    have hitem (u : Step) : (header ++ u.toYaml).isEmpty = false := by simp [u.toYaml_ne_nil]
    rw [hitem, hitem]

theorem plain_ensureTitled (d : Draft) : d.ensureTitled.plain = d.plain.ensureTitled := by
  unfold ensureTitled
  split
  · rename_i hphase
    rw [if_pos (show d.plain.phase = .untitled from hphase)]
    rfl
  · rename_i hphase
    rw [if_neg (show ¬d.plain.phase = .untitled from hphase)]

theorem plain_locate (d : Draft) (e : Entry) : (d.locate e).plain = d.plain.locate e := by
  unfold locate
  split
  · rename_i hheaded
    rw [if_pos (show d.plain.headed = true from hheaded)]
  · rename_i hheaded
    rw [if_neg (show ¬d.plain.headed = true from hheaded)]
    rfl

theorem plain_append (d : Draft) (s : Step) :
    (d.append s).plain = d.plain.append s.withoutDebug := by
  unfold plain append
  rw [List.map_append]
  rfl

theorem plain_step? (d : Draft) (event : Event) :
    d.plain.step? event = (d.step? event).map Step.withoutDebug := by
  cases event with
  | close => rfl
  | record e =>
    simp only [step?]
    rw [Step.ofEntry?_withoutDebug, ← plain_ensureTitled, ← plain_locate]
    have hdebug : (d.ensureTitled.locate e).plain.debug = false := rfl
    rw [hdebug]
    rfl

theorem plain_respond (d : Draft) (event : Event) :
    (d.plain.respond event).1 = (d.respond event).1.plain ∧
      SamePiece (d.respond event).2 (d.plain.respond event).2 := by
  cases event with
  | close => exact ⟨rfl, .none⟩
  | record e =>
    have hstep := plain_step? d (.record e)
    simp only [respond]
    rcases record_cases d e with ⟨hnone, heq⟩ | ⟨s, hsome, heq⟩
    · rcases record_cases d.plain e with ⟨-, heq'⟩ | ⟨s', hsome', -⟩
      · rw [heq, heq', plain_ensureTitled]
        exact ⟨rfl, .none⟩
      · rw [hnone, hsome'] at hstep
        cases hstep
    · rcases record_cases d.plain e with ⟨hnone', -⟩ | ⟨s', hsome', heq'⟩
      · rw [hsome, hnone'] at hstep
        cases hstep
      · rw [hsome, hsome'] at hstep
        obtain rfl : s' = s.withoutDebug := Option.some.inj hstep
        rw [heq, heq', ← plain_ensureTitled, ← plain_locate, plain_append]
        exact ⟨rfl, .item _ s⟩

/-! ## All events -/

theorem plain_after (d : Draft) (events : List Event) :
    d.plain.after events = (d.after events).plain := by
  induction events generalizing d with
  | nil => rfl
  | cons event events ih =>
    unfold after
    rw [(plain_respond d event).1, ih]

theorem plain_fragments (d : Draft) (events : List Event) :
    List.Forall₂ SamePiece (d.fragments events) (d.plain.fragments events) := by
  induction events generalizing d with
  | nil => exact .nil
  | cons event events ih =>
    obtain ⟨hdraft, hpiece⟩ := plain_respond d event
    unfold fragments
    rw [hdraft]
    exact .cons hpiece (ih _)

/-- A new draft, under a heading if one is given. -/
def opened (debug : Bool) (h : Option Heading) : Draft :=
  h.elim (start debug) fun h => (start debug).entitle h

theorem plain_opened (h : Option Heading) : (opened true h).plain = opened false h := by
  cases h <;> rfl

/-- The steps are the same but for what a known action carries. -/
def SameStep (s t : Step) : Prop :=
  s.withoutDebug = t.withoutDebug ∧
    (Transcript.isUnsupported s = true ∨ Transcript.isUnsupported t = true → s = t)

theorem sameStep_withoutDebug (s : Step) : SameStep s s.withoutDebug := by
  refine ⟨s.withoutDebug_twice.symm, fun h => ?_⟩
  rw [Step.isUnsupported_withoutDebug, or_self] at h
  exact (Step.withoutDebug_unsupported h).symm

/-- After any events a draft with debugging and one without it are in the same phase, with the same
base and header, and have the same steps but for what those of known actions carry, which without
debugging is nothing. The same events were answered with nothing, and the others with the same
header and the item of the same step. -/
theorem debug_only_carried (h : Option Heading) (events : List Event) :
    let debugged := (opened true h).after events
    let bare := (opened false h).after events
    bare.phase = debugged.phase ∧ bare.base = debugged.base ∧ bare.headed = debugged.headed ∧
      bare.heading.headerYaml = debugged.heading.headerYaml ∧
      List.Forall₂ SameStep debugged.steps bare.steps ∧
        bare.steps = debugged.steps.map Step.withoutDebug ∧
      ((opened true h).fragments events).map List.isEmpty =
        ((opened false h).fragments events).map List.isEmpty ∧
      List.Forall₂ SamePiece ((opened true h).fragments events)
        ((opened false h).fragments events) := by
  intro debugged bare
  have hbare : bare = debugged.plain := by
    rw [← plain_after, plain_opened]
  have hpieces := plain_fragments (opened true h) events
  rw [plain_opened] at hpieces
  rw [hbare]
  refine ⟨rfl, rfl, rfl, rfl, ?_, rfl, ?_, hpieces⟩
  · rw [plain, List.forall₂_map_right_iff, List.forall₂_same]
    exact fun s _ => sameStep_withoutDebug s
  · rw [← List.forall₂_eq_eq_eq, List.forall₂_map_left_iff, List.forall₂_map_right_iff]
    exact hpieces.imp fun _ _ => SamePiece.isEmpty_eq

end Draft

end Scenarist

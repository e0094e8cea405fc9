import Scenarist.Proofs.Draft.Run
import Mathlib.Data.List.Forall2

/-! # Secrets in drafts

A text that is typed into a secret field goes nowhere: sessions that differ in such texts alone
give the same pieces and the same scenario.
-/

namespace Scenarist

/-! ## What differs -/

/-- The entries are equal but for the text that is typed into one and the same secret field. -/
inductive Entry.SameButSecret : Entry → Entry → Prop where
  | same (e : Entry) : SameButSecret e e
  | typed (frame : FramePlace) (selector : Option Text) (signals : List Signal) (t u : Text)
    (h : (Selector.ofRecorded selector).isSecret = true) :
    SameButSecret ⟨frame, .known ⟨.onElement selector (.fill t), signals⟩⟩
      ⟨frame, .known ⟨.onElement selector (.fill u), signals⟩⟩

/-- The events are equal but for a secret. -/
inductive Draft.Event.SameButSecret : Event → Event → Prop where
  | record (e f : Entry) (h : e.SameButSecret f) : SameButSecret (.record e) (.record f)
  | close : SameButSecret .close .close

/-! ## The step -/

theorem FramePlace.isSecret_target (f : FramePlace) (raw : Option Text) :
    (f.target raw).isSecret = (Selector.ofRecorded raw).isSecret := rfl

namespace Step

theorem ofDeed?_fill (base : Option Text) (frame : FramePlace) (raw : Option Text) (t : Text)
    (h : (Selector.ofRecorded raw).isSecret = true) :
    ofDeed? base frame (.onElement raw (.fill t)) =
      some { action := .fill, text := some mask, selector := some (frame.target raw) } := by
  rw [ofDeed?, ofGesture, Selector.masked, FramePlace.isSecret_target, if_pos h]

theorem redactDebug_fill (frame : FramePlace) (raw : Option Text) (signals : List Signal)
    (t u : Text) :
    redactDebug (debugOf ⟨frame, .known ⟨.onElement raw (.fill t), signals⟩⟩
      (.onElement raw (.fill t))) =
      redactDebug (debugOf ⟨frame, .known ⟨.onElement raw (.fill u), signals⟩⟩
        (.onElement raw (.fill u))) :=
  rfl

theorem ofEntry?_sameButSecret (base : Option Text) (debug : Bool) {e f : Entry}
    (h : e.SameButSecret f) : ofEntry? base debug e = ofEntry? base debug f := by
  cases h with
  | same => rfl
  | typed frame raw signals t u hsecret =>
    have hmasked :
        isMasked { action := .fill, text := some mask, selector := some (frame.target raw) } =
      true := by
      simp [isMasked]
    simp only [ ofEntry?, ofDeed?_fill base frame raw _ hsecret, Option.map_some, debugFor, hmasked,
      if_true]
    rw [redactDebug_fill frame raw signals t u]

end Step

/-! ## The session -/

namespace Draft

theorem locate_sameButSecret (d : Draft) {e f : Entry} (h : e.SameButSecret f) :
    d.locate e = d.locate f := by
  cases h <;> rfl

theorem respond_sameButSecret (d : Draft) {a b : Event} (h : a.SameButSecret b) :
    d.respond a = d.respond b := by
  cases h with
  | close => rfl
  | record e f h =>
    simp only [respond, record, locate_sameButSecret _ h, Step.ofEntry?_sameButSecret _ _ h]

theorem run_sameButSecret (d : Draft) {as bs : List Event}
    (h : List.Forall₂ Event.SameButSecret as bs) :
    d.fragments as = d.fragments bs ∧ d.after as = d.after bs := by
  induction h generalizing d with
  | nil => exact ⟨rfl, rfl⟩
  | cons hab _ ih =>
    have hrespond := respond_sameButSecret d hab
    obtain ⟨hfragments, hafter⟩ := ih (d.respond _).1
    refine ⟨?_, ?_⟩
    · rw [fragments, fragments, ← hrespond, hfragments]
    · rw [after, after, ← hrespond, hafter]

/-- Neither the pieces of the document nor the scenario depend on the texts that are typed into
secret fields. -/
theorem secrets_not_written (debug : Bool) (heading : Heading) {as bs : List Event}
    (h : List.Forall₂ Event.SameButSecret as bs) :
    let d := (start debug).entitle heading
    d.fragments as = d.fragments bs ∧ (d.after as).scenario = (d.after bs).scenario ∧
      (d.after as).scenario.toYaml = (d.after bs).scenario.toYaml := by
  obtain ⟨hfragments, hafter⟩ := run_sameButSecret ((start debug).entitle heading) h
  exact ⟨hfragments, by rw [hafter], by rw [hafter]⟩

/-- One field, two passwords. -/
theorem passwords_not_written :
    let typing (t : Text) : Event :=
  .record ⟨.main, .known ⟨.onElement (some "#pwd") (.fill t), []⟩⟩
    let d := (start true).entitle ⟨none, none⟩
    (Selector.ofRecorded (some "#pwd")).isSecret = true ∧
      d.fragments [typing "hunter2", .close] = d.fragments [typing "letmein", .close] ∧
      (d.after [typing "hunter2", .close]).scenario =
        (d.after [typing "letmein", .close]).scenario ∧
      (d.after [typing "hunter2", .close]).scenario.toYaml =
        (d.after [typing "letmein", .close]).scenario.toYaml := by
  have hsecret : (Selector.ofRecorded (some "#pwd")).isSecret = true := by decide
  exact ⟨hsecret, secrets_not_written true ⟨none, none⟩
    (.cons (.record _ _ (.typed _ _ _ _ _ hsecret)) (.cons .close .nil))⟩

end Draft

end Scenarist

import Scenarist.Proofs.Recording.Decoded
import Scenarist.Step.Recorded

/-! # Redacted payloads

The step of an action that could not be read carries the recorded object. Where this names a secret
field, the text that was typed into the field is masked. What stands there and is no text is kept.
-/

namespace Scenarist

open Json (IsAscending IsCanonical overText)

/-! ## Payloads -/

/-- A recorded object that names a secret field and could not be read as an action. -/
structure IsSecretPayload (payload : Json) : Prop where
  canonical : IsCanonical payload
  unread : ∀ action, RecordedAction.ofJson payload ≠ .known action
  secret : ∃ raw, payload.get? "selector" = some (.string raw) ∧
    (Selector.ofRecorded (some raw)).isSecret = true

/-- The objects have the same keys, and the same values but under `text`. -/
def SameButText (p q : Json) : Prop :=
  (∀ key : Text, key ≠ "text" → p.get? key = q.get? key) ∧
    ((p.get? "text").isSome = true ∧ (q.get? "text").isSome = true)

namespace IsSecretPayload

variable {p q : Json}

theorem exists_members (h : IsSecretPayload p) :
    ∃ members, p = .object members ∧ IsAscending members := by
  obtain ⟨raw, hraw, -⟩ := h.secret
  cases h.canonical with
  | object members hkeys _ => exact ⟨members, rfl, hkeys⟩
  | null | bool | number | string | array => cases hraw

theorem ofJson_eq (h : IsSecretPayload p) :
    RecordedAction.ofJson p = .unsupported (RecordedAction.nameOf p) p := by
  have hunread := h.unread
  unfold RecordedAction.ofJson at hunread ⊢
  split
  · rename_i action hread
    rw [hread] at hunread
    exact absurd rfl (hunread action)
  · rfl

theorem redactedPayload_eq (h : IsSecretPayload p) :
    RecordedAction.redactedPayload p = p.redacted := by
  obtain ⟨raw, hraw, hsecret⟩ := h.secret
  rw [RecordedAction.redactedPayload, hraw, Option.bind_some, Json.text?, if_pos hsecret]

theorem ofEntry?_eq (h : IsSecretPayload p) (base : Option Text) (debug : Bool)
    (frame : FramePlace) :
    Step.ofEntry? base debug ⟨frame, .ofJson p⟩ =
      some { action := .unsupported (RecordedAction.nameOf p), debug := some p.redacted } := by
  rw [h.ofJson_eq, ← h.redactedPayload_eq]
  rfl

theorem get?_redacted (p : Json) (key : Text) :
    p.redacted.get? key = (p.get? key).map (if key = "text" then overText mask else id) :=
  Json.get?_replaceText "text" mask p key

/-- Objects that differ in what was typed are redacted alike just if what was typed is masked
alike. -/
theorem redacted_eq_iff (hp : IsSecretPayload p) (hq : IsSecretPayload q)
    (hsame : SameButText p q) :
    p.redacted = q.redacted ↔
      (p.get? "text").map (overText mask) = (q.get? "text").map (overText mask) := by
  constructor
  · intro heq
    have htext := get?_redacted p "text"
    rw [heq, get?_redacted q "text"] at htext
    exact htext.symm
  · intro hmasked
    have hall : ∀ key, p.redacted.get? key = q.redacted.get? key := by
      intro key
      rw [get?_redacted, get?_redacted]
      split
      · rename_i hkey
        rw [hkey]
        exact hmasked
      · rename_i hkey
        rw [hsame.1 key hkey]
    obtain ⟨members, rfl, hmembers⟩ := hp.exists_members
    obtain ⟨others, rfl, hothers⟩ := hq.exists_members
    obtain ⟨a, ha, hasc⟩ := hmembers.replaceText "text" mask
    obtain ⟨b, hb, hbsc⟩ := hothers.replaceText "text" mask
    rw [Json.redacted, Json.redacted, ha, hb] at hall ⊢
    rw [hasc.ext hbsc hall]

end IsSecretPayload

/-! ## Steps -/

namespace Step

theorem nameOf_sameButText {p q : Json} (h : SameButText p q) :
    RecordedAction.nameOf p = RecordedAction.nameOf q := by
  rw [RecordedAction.nameOf, RecordedAction.nameOf, h.1 "name" (by decide)]

/-- What was typed into a secret field stays in the step just if it is no text. So the steps of two
objects that differ in it are equal just if both times a text was typed, or the same value. -/
theorem passthrough_eq_iff {p q : Json} (hp : IsSecretPayload p) (hq : IsSecretPayload q)
    (hsame : SameButText p q)
    (base : Option Text) (debug : Bool) (frame : FramePlace) :
    (∃ s, ofEntry? base debug ⟨frame, .ofJson p⟩ = some s ∧
      s.debug.bind (Json.get? "text") = (p.get? "text").map (overText mask)) ∧
    ( ofEntry? base debug ⟨frame, .ofJson p⟩ = ofEntry? base debug ⟨frame, .ofJson q⟩ ↔
      p.get? "text" = q.get? "text" ∨
        ((p.get? "text").bind Json.text?).isSome = true ∧
          ((q.get? "text").bind Json.text?).isSome = true) := by
  refine ⟨⟨_, hp.ofEntry?_eq base debug frame, IsSecretPayload.get?_redacted p "text"⟩, ?_⟩
  obtain ⟨v, hv⟩ := Option.isSome_iff_exists.mp hsame.2.1
  obtain ⟨w, hw⟩ := Option.isSome_iff_exists.mp hsame.2.2
  calc ofEntry? base debug ⟨frame, .ofJson p⟩ = ofEntry? base debug ⟨frame, .ofJson q⟩
      ↔ p.redacted = q.redacted := by
        rw [hp.ofEntry?_eq, hq.ofEntry?_eq, nameOf_sameButText hsame]
        simp
    _ ↔ overText mask v = overText mask w := by
        rw [hp.redacted_eq_iff hq hsame, hv, hw]
        simp
    _ ↔ _ := by
        rw [Json.overText_eq_iff, hv, hw]
        simp

/-- Something that was typed into the password field by an action with this name. -/
def typedPassword (name : Text) (typed : Json) : Json :=
  .object [("name", .string name), ("selector", .string "#password"), ("text", typed)]

theorem isSecretPayload_typedPassword {name : Text} {typed : Json} (htyped : IsCanonical typed)
    (hunread : Action.ofNode? (.ofJson (typedPassword name typed)) = none) :
      IsSecretPayload (typedPassword name typed) where
  canonical := by
    refine .object _ ?_ ?_
    · have hkeys : (["name", "selector", "text"].map String.toList).Pairwise (· < ·) := by decide
      exact List.pairwise_map.mp hkeys
    · simp only [List.forall_mem_cons]
      exact ⟨.string _, .string _, htyped, by simp⟩
  unread := by
    intro action hknown
    rw [RecordedAction.ofJson, hunread] at hknown
    cases hknown
  secret := ⟨"#password", rfl, by decide⟩

theorem sameButText_typedPassword (name : Text) (v w : Json) :
    SameButText (typedPassword name v) (typedPassword name w) := by
  have hothers (u : Json) (key : Text) (h : key ≠ "text") :
      (typedPassword name u).get? key =
        List.lookup key [("name", .string name), ("selector", .string "#password")] := by
    have hne : (key == "text".toList) = false := beq_false_of_ne h
    unfold typedPassword Json.get?
    simp only [List.lookup_cons, hne, List.lookup_nil]
  have htext (u : Json) : (typedPassword name u).get? "text" = some u := rfl
  constructor
  · intro key hkey
    rw [hothers v key hkey, hothers w key hkey]
  · rw [htext, htext]
    simp

/-- Two passwords that were typed in a way that is not known. -/
theorem passwords_masked :
    let typed (t : Text) : Json := typedPassword "type" (.string t)
    IsSecretPayload (typed "hunter2") ∧ IsSecretPayload (typed "letmein") ∧
      SameButText (typed "hunter2") (typed "letmein") ∧
      ofEntry? none false ⟨.main, .ofJson (typed "hunter2")⟩ =
        ofEntry? none false ⟨.main, .ofJson (typed "letmein")⟩ := by
  intro typed
  have hsecret (t : Text) (h : Action.ofNode? (.ofJson (typed t)) = none) :
      IsSecretPayload (typed t) :=
    isSecretPayload_typedPassword (.string t) h
  have hhunter := hsecret "hunter2" (by decide)
  have hletmein := hsecret "letmein" (by decide)
  have hsame : SameButText (typed "hunter2") (typed "letmein") := sameButText_typedPassword _ _ _
  exact ⟨hhunter, hletmein, hsame,
    (passthrough_eq_iff hhunter hletmein hsame none false .main).2.mpr (.inr ⟨rfl, rfl⟩)⟩

/-- A number that was typed into a secret field is not masked. -/
theorem typed_number_kept :
    let typed (n : Number) : Json := typedPassword "fill" (.number n)
    let pin : Number := .integer 1234 (by decide)
    let other : Number := .integer 5678 (by decide)
    IsSecretPayload (typed pin) ∧ IsSecretPayload (typed other) ∧
      SameButText (typed pin) (typed other) ∧
      ofEntry? none false ⟨.main, .ofJson (typed pin)⟩ ≠
        ofEntry? none false ⟨.main, .ofJson (typed other)⟩ := by
  intro typed pin other
  have hpin : IsSecretPayload (typed pin) :=
    isSecretPayload_typedPassword (.number pin rfl) (by decide)
  have hother : IsSecretPayload (typed other) :=
    isSecretPayload_typedPassword (.number other rfl) (by decide)
  refine ⟨hpin, hother, sameButText_typedPassword _ _ _, ?_⟩
  rw [hpin.ofEntry?_eq, hother.ofEntry?_eq]
  decide

end Step

end Scenarist

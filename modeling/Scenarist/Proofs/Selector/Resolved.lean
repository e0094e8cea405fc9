import Scenarist.Proofs.Selector.Filters

/-! # Induction over recorded selectors

A recorded selector is made of its element, of what the parts behind it narrow, and of the selectors
of the chains that they quote. What holds of a selector if it holds of those holds of all of them.
-/

namespace Scenarist

/-- What the selectors of chains have in common: `P` of selectors and `Q` of filters. -/
structure IsResolvable (P : Selector → Prop) (Q : Filters → Prop) : Prop where
  query : ∀ t, P (.ofElement (.css t))
  target : ∀ {p e f}, (Chain.element p).value = some e → Q f →
    ∀ nth, P { (Selector.ofElement e).withFilters f with nth }
  none : Q .none
  update : ∀ {w : Chain.Narrowing} {inner}, Q w.filters → (∀ s ∈ inner, P s) →
    ∀ (k : Chain.FilterKind) source, Q (k.update source inner w).filters

namespace IsResolvable

variable {P : Selector → Prop} {Q : Filters → Prop}

theorem narrow (h : IsResolvable P Q) {w : Chain.Narrowing} (p : Part)
    {inner : Noted (Option Selector)}
    (hw : Q w.filters) (hinner : ∀ s ∈ inner.value, P s) :
      Q (Chain.narrow w p inner).value.filters := by
  by_cases hp : p.engine ∈ Chain.filterEngines
  · obtain ⟨k, hk⟩ := Chain.FilterKind.mem_filterEngines.mp hp
    rw [Chain.narrow_kind k hk.symm]
    exact h.update hw hinner k p.source
  · rw [Chain.narrow_other hp]
    exact hw

mutual

theorem toSelector (h : IsResolvable P Q) (raw : Text) : ∀ c : Chain, P (c.toSelector raw).value
  | ⟨parts, capture⟩ => by
    rw [Chain.toSelector]
    dsimp only
    split
    · exact h.query _
    split
    · exact h.query _
    split
    · exact h.query _
    · rename_i htarget
      exact h.target htarget (h.narrowAll _ h.none parts) _

theorem narrowAll (h : IsResolvable P Q) (skip : Nat) {w : Chain.Narrowing} (hw : Q w.filters) :
    ∀ parts : List Part, Q (Chain.narrowAll skip w parts).value.filters
  | [] => by
    rw [Chain.narrowAll]
    exact hw
  | p :: r => by
    cases skip with
    | succ n =>
      rw [Chain.narrowAll]
      exact h.narrowAll n hw r
    | zero =>
      rw [Chain.narrowAll]
      exact h.narrowAll 0 (h.narrow p hw (h.innerSelector p)) r

theorem innerSelector (h : IsResolvable P Q) : ∀ p : Part, ∀ s ∈ (Chain.innerSelector p).value, P s
  | .plain _ _ => fun s hs => absurd hs (by simp [Chain.innerSelector])
  | .nested _ _ inner _ => fun s hs => by
    obtain rfl : (inner.toSelector inner.toText).value = s := Option.some.inj hs
    exact h.toSelector _ inner

end

theorem ofRecorded (h : IsResolvable P Q) (raw : Option Text) : P (.ofRecorded raw) := by
  have hread : ∀ t, ∀ s ∈ (Selector.ofRecorded? t).value, P s := by
    intro t s hs
    unfold Selector.ofRecorded? at hs
    split at hs
    · rename_i c _
      obtain rfl : (c.toSelector t).value = s := Option.some.inj hs
      exact h.toSelector t c
    · exact absurd hs (by simp)
  rw [Selector.ofRecorded]
  cases hraw : raw.bind fun t => (Selector.ofRecorded? t).value with
  | none => exact h.query _
  | some s =>
    obtain ⟨t, -, hs⟩ := Option.bind_eq_some_iff.mp hraw
    exact hread t s hs

end IsResolvable

end Scenarist

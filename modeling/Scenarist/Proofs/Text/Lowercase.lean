import Mathlib.Data.List.Basic
import Scenarist.Text.Lowercase
import Scenarist.Proofs.Text.Pieces

/-! # Small letters in their surroundings

The small letters of a stretch hang on what stands around it only through the capital sigmas: at the
end of a word a sigma takes its final form. So a stretch has the same small letters on its own and
within a text, unless the text goes on with a word where a sigma of the stretch ends or begins it.
-/

namespace Scenarist.Text

open Unicode

/-! ## Stretches -/

/-- The small letters of `t` between `before`, nearest first, and `after`. -/
def lowerWithin (before : Text) : (t after : Text) → Text
  | [], _ => []
  | c :: r, after =>
    (if c = '\u03A3' then [lowerSigma before (r ++ after)] else lowerOf c) ++
      lowerWithin (c :: before) r after

theorem toLowerAfter_eq (before t : Text) : toLowerAfter before t = lowerWithin before t [] := by
  induction t generalizing before with
  | nil => rfl
  | cons c t ih => rw [toLowerAfter, lowerWithin, ih, List.append_nil]

theorem toLower_eq (t : Text) : toLower t = lowerWithin [] t [] := toLowerAfter_eq [] t

theorem lowerWithin_append (before t u after : Text) :
    lowerWithin before (t ++ u) after =
      lowerWithin before t (u ++ after) ++ lowerWithin (t.reverse ++ before) u after := by
  induction t generalizing before with
  | nil => rfl
  | cons c t ih => simp [lowerWithin, ih]

theorem toLower_around (x t y : Text) :
    toLower (x ++ t ++ y) =
      lowerWithin [] x (t ++ y) ++ lowerWithin x.reverse t y ++
        lowerWithin (t.reverse ++ x.reverse) y [] := by
  rw [toLower_eq, lowerWithin_append, lowerWithin_append]
  simp

theorem length_lowerWithin (before before' t after after' : Text) :
    (lowerWithin before t after).length = (lowerWithin before' t after').length := by
  induction t generalizing before before' with
  | nil => rfl
  | cons c t ih =>
    simp only [lowerWithin, List.length_append, ih (c :: before) (c :: before')]
    split <;> rfl

/-- A stretch has the same small letters in two places if each of its sigmas takes the same form
there. -/
theorem lowerWithin_eq_iff {before before' t after after' : Text} :
    lowerWithin before t after = lowerWithin before' t after' ↔
      ∀ u v, t = u ++ '\u03A3' :: v →
        lowerSigma (u.reverse ++ before) (v ++ after) =
          lowerSigma (u.reverse ++ before') (v ++ after') := by
  induction t generalizing before before' with
  | nil => simp [lowerWithin]
  | cons c t ih =>
    have hrest : (∀ u v, c :: t = u ++ '\u03A3' :: v →
          lowerSigma (u.reverse ++ before) (v ++ after) =
          lowerSigma (u.reverse ++ before') (v ++ after')) ↔
        (c = '\u03A3' → lowerSigma before (t ++ after) = lowerSigma before' (t ++ after')) ∧
          ∀ u v, t = u ++ '\u03A3' :: v →
            lowerSigma (u.reverse ++ c :: before) (v ++ after) =
              lowerSigma (u.reverse ++ c :: before') (v ++ after') := by
      constructor
      · intro h
        refine ⟨fun hc => h [] t (by rw [hc, List.nil_append]), fun u v ht => ?_⟩
        simpa using h (c :: u) v (by rw [ht, List.cons_append])
      · rintro ⟨hfirst, hrest⟩ u v heq
        cases u with
        | nil =>
          obtain ⟨hc, rfl⟩ := List.cons.inj heq
          exact hfirst hc
        | cons d u =>
          obtain ⟨rfl, ht⟩ := List.cons.inj heq
          simpa using hrest u v ht
    rw [hrest, ← ih, lowerWithin, lowerWithin]
    split
    · rename_i hc
      simp [hc]
    · rename_i hc
      simp [hc]

/-! ## The form of a sigma -/

theorem startsCased_cons (c : Char) (t : Text) :
    startsCased (c :: t) = if isCaseIgnorable c then startsCased t else isCased c := by
  cases h : isCaseIgnorable c with
  | true => rw [if_pos rfl, startsCased, List.dropWhile_cons_of_pos h, startsCased]
  | false => rw [if_neg Bool.false_ne_true, startsCased,
      List.dropWhile_cons_of_neg (Bool.not_eq_true _ ▸ h)]

theorem startsCased_append (s u : Text) :
    startsCased (s ++ u) = if s.all isCaseIgnorable then startsCased u else startsCased s := by
  induction s with
  | nil => rw [List.nil_append, List.all_nil, if_pos rfl]
  | cons c s ih =>
    rw [List.cons_append, startsCased_cons, startsCased_cons, ih, List.all_cons]
    cases isCaseIgnorable c <;> simp

theorem startsCased_of_all {t : Text} (h : t.all isCaseIgnorable = true) :
    startsCased t = false := by
  have happend := startsCased_append t []
  rwa [List.append_nil, if_pos h] at happend

theorem lowerSigma_eq_iff {before before' after after' : Text} :
    lowerSigma before after = lowerSigma before' after' ↔
      (startsCased before && !startsCased after) =
        (startsCased before' && !startsCased after') := by
  unfold lowerSigma
  cases startsCased before <;> cases startsCased after <;> cases startsCased before'
    <;> cases startsCased after' <;>
    decide

/-- A sigma of the stretch takes another form between `x` and `y` than on its own: a word goes on
into the stretch, which began with the sigma, and ends there; or it goes on behind the stretch,
which ended with the sigma. -/
def SigmaShifts (x t y : Text) : Prop :=
  ∃ u v, t = u ++ '\u03A3' :: v ∧
    (u.all isCaseIgnorable = true ∧ startsCased x.reverse = true ∧ startsCased (v ++ y) = false ∨
      startsCased u.reverse = true ∧ v.all isCaseIgnorable = true ∧ startsCased y = true)

/-- There are surroundings in which a sigma of the text takes another form. -/
def HasExposedSigma (t : Text) : Prop :=
  ∃ u v, t = u ++ '\u03A3' :: v ∧
    (u.all isCaseIgnorable = true ∧ startsCased v = false ∨ startsCased u.reverse = true ∧
      v.all isCaseIgnorable = true)

theorem lowerSigma_around_ne_iff {u v x y : Text} :
    lowerSigma (u.reverse ++ x.reverse) (v ++ y) ≠ lowerSigma u.reverse v ↔
      (u.all isCaseIgnorable = true ∧ startsCased x.reverse = true ∧ startsCased (v ++ y) = false ∨
        startsCased u.reverse = true ∧ v.all isCaseIgnorable = true ∧ startsCased y = true) := by
  rw [ne_eq, lowerSigma_eq_iff, startsCased_append u.reverse, startsCased_append v,
    List.all_reverse]
  cases hu : u.all isCaseIgnorable with
  | true =>
    have hnone : startsCased u.reverse = false := startsCased_of_all (by rwa [List.all_reverse])
    simp [hnone]
  | false =>
    cases hv : v.all isCaseIgnorable with
    | true =>
      have hnone := startsCased_of_all hv
      simp [hnone]
    | false => simp

theorem lowerWithin_eq_toLower_iff {x t y : Text} :
    lowerWithin x.reverse t y = toLower t ↔ ¬ SigmaShifts x t y := by
  rw [toLower_eq, lowerWithin_eq_iff]
  simp only [SigmaShifts, not_exists, not_and, List.append_nil, ← lowerSigma_around_ne_iff, not_not]

theorem hasExposedSigma_of_shifts {x t y : Text} (h : SigmaShifts x t y) : HasExposedSigma t := by
  obtain ⟨u, v, rfl, ⟨hu, -, hy⟩ | ⟨hu, hv, -⟩⟩ := h
  · refine ⟨u, v, rfl, .inl ⟨hu, ?_⟩⟩
    rw [startsCased_append] at hy
    split at hy
    · exact startsCased_of_all ‹_›
    · exact hy
  · exact ⟨u, v, rfl, .inr ⟨hu, hv⟩⟩

/-! ## Small letters of single characters -/

/-- A small letter that is neither a sigma nor one of the two that a dotted capital becomes. -/
def isSteady (l : Char) : Bool := !(['i', '\u0307', '\u0130', '\u03C2', '\u03C3'].contains l)

theorem lowerWithin_cons_cases (before : Text) (c : Char) (r after : Text) :
    (∃ l, (l = '\u03C2' ∨ l = '\u03C3') ∧ lowerChar c = '\u03C3' ∧
        lowerWithin before (c :: r) after = l :: lowerWithin (c :: before) r after) ∨
      (lowerChar c = '\u0130' ∧
        lowerWithin before (c :: r) after = 'i' :: '\u0307' :: lowerWithin (c :: before) r after) ∨
      lowerWithin before (c :: r) after = lowerChar c :: lowerWithin (c :: before) r after := by
  have hcapitals : lowerChar '\u03A3' = '\u03C3' ∧ lowerChar '\u0130' = '\u0130' := by
    decide +kernel
  rw [lowerWithin, lowerOf]
  split
  · rename_i hc
    refine .inl ⟨lowerSigma before (r ++ after), ?_, by rw [hc, hcapitals.1], rfl⟩
    unfold lowerSigma
    split
    · exact .inl rfl
    · exact .inr rfl
  · split
    · rename_i hc
      exact .inr (.inl ⟨by rw [hc, hcapitals.2], rfl⟩)
    · exact .inr (.inr rfl)

variable {w : Text}

theorem exists_of_lowerWithin {before f after rest : Text} (hw : ∀ l ∈ w, isSteady l = true)
    (h : lowerWithin before f after = w ++ rest) : ∃ m y, f = m ++ y ∧ m.map lowerChar = w := by
  induction w generalizing before f with
  | nil => exact ⟨[], f, rfl, rfl⟩
  | cons l w ih =>
    obtain ⟨hl, hsteady⟩ := List.forall_mem_cons.mp hw
    cases f with
    | nil => cases h
    | cons c r =>
      rcases lowerWithin_cons_cases before c r after with ⟨s, hs, -, heq⟩ | ⟨-, heq⟩ | heq
      · obtain ⟨rfl, -⟩ := List.cons.inj (heq.symm.trans h)
        rcases hs with rfl | rfl <;> cases hl
      · obtain ⟨rfl, -⟩ := List.cons.inj (heq.symm.trans h)
        cases hl
      · obtain ⟨hc, hrest⟩ := List.cons.inj (heq.symm.trans h)
        obtain ⟨m, y, rfl, hm⟩ := ih hsteady hrest
        exact ⟨c :: m, y, rfl, by rw [List.map_cons, hc, hm]⟩

theorem exists_of_lowerWithin_append {before f after x rest : Text} (hne : w ≠ [])
    (hw : ∀ l ∈ w, isSteady l = true)
    (h : lowerWithin before f after = x ++ (w ++ rest)) :
      ∃ x m y, f = x ++ (m ++ y) ∧ m.map lowerChar = w := by
  -- the word begins with the small letter of some character, so only the beginning of `f` is peeled
  -- off
  induction f generalizing before x with
  | nil => exact absurd (List.append_eq_nil_iff.mp (List.append_eq_nil_iff.mp h.symm).2).1 hne
  | cons c f ih =>
    have hlater {x : Text} (h : lowerWithin (c :: before) f after = x ++ (w ++ rest)) :
        ∃ x m y, c :: f = x ++ (m ++ y) ∧ m.map lowerChar = w := by
      obtain ⟨x, m, y, rfl, hm⟩ := ih h
      exact ⟨c :: x, m, y, rfl, hm⟩
    cases x with
    | nil =>
      obtain ⟨m, y, hf, hm⟩ := exists_of_lowerWithin hw h
      exact ⟨[], m, y, hf, hm⟩
    | cons d x =>
      rcases lowerWithin_cons_cases before c f after with ⟨s, -, -, heq⟩ | ⟨-, heq⟩ | heq
      · exact hlater (List.cons.inj (heq.symm.trans h)).2
      · have hdot := (List.cons.inj (heq.symm.trans h)).2
        cases x with
        | nil =>
          -- the dot behind the `i` begins no steady word
          obtain ⟨l, w, rfl⟩ := List.exists_cons_of_ne_nil hne
          obtain ⟨rfl, -⟩ := List.cons.inj hdot
          cases hw '\u0307' List.mem_cons_self
        | cons e x => exact hlater (List.cons.inj hdot).2
      · exact hlater (List.cons.inj (heq.symm.trans h)).2

theorem lowerWithin_of_steady {before m after : Text}
    (hm : ∀ c ∈ m, isSteady (lowerChar c) = true) :
    lowerWithin before m after = m.map lowerChar := by
  induction m generalizing before with
  | nil => rfl
  | cons c m ih =>
    obtain ⟨hc, hm⟩ := List.forall_mem_cons.mp hm
    rcases lowerWithin_cons_cases before c m after with ⟨s, -, hsigma, -⟩ | ⟨hdotted, -⟩ | heq
    · rw [hsigma] at hc
      cases hc
    · rw [hdotted] at hc
      cases hc
    · rw [heq, ih hm, List.map_cons]

/-- A word of steady letters stands in the small letters of a text where its letters stand in some
case. -/
theorem occursIn_toLower_iff {f : Text} (hne : w ≠ []) (hw : ∀ l ∈ w, isSteady l = true) :
    occursIn w (toLower f) = true ↔ ∃ x m y, f = x ++ (m ++ y) ∧ m.map lowerChar = w := by
  rw [occursIn_iff]
  constructor
  · rintro ⟨x, y, h⟩
    rw [toLower_eq] at h
    exact exists_of_lowerWithin_append hne hw h
  · rintro ⟨x, m, y, rfl, rfl⟩
    have hm : ∀ c ∈ m, isSteady (lowerChar c) = true := fun c hc => hw _ (List.mem_map_of_mem hc)
    rw [← List.append_assoc, toLower_around, lowerWithin_of_steady hm]
    exact ⟨_, _, List.append_assoc _ _ _⟩

/-! ## Letters of words -/

theorem startsCased_letters : ∀ c ∈ ['a', 'b', '\u0391'], startsCased [c] = true := by
  have hcased : ∀ c ∈ ['a', 'b', '\u0391'], isCased c = true := by
    refine List.all_eq_true.mp ?_
    unfold isCased casedRanges
    rw [String.toList_ofList]
    decide +kernel
  have hletter : ∀ c ∈ ['a', 'b', '\u0391'], isCaseIgnorable c = false := by
    refine List.forall_iff_forall_mem.mp ?_
    unfold isCaseIgnorable caseIgnorableRanges
    rw [String.toList_ofList]
    decide +kernel
  intro c hc
  rw [startsCased_cons, hletter c hc, if_neg Bool.false_ne_true, hcased c hc]

end Scenarist.Text

import Scenarist.Proofs.Text.Lowercase
import Scenarist.Proofs.Text.Pieces
import Scenarist.Selector.TextMatcher

/-! # Texts that contain a text

A plain matcher looks for the small letters of its text in those of the candidate. A candidate that
holds the text itself is accepted as long as the text keeps its small letters there, which only a
capital sigma can prevent.
-/

namespace Scenarist.TextMatcher

open Text

variable {x t y : Text}

theorem accepts_plain_of_not_shifts (h : ¬ SigmaShifts x t y) :
    (plain t).accepts (x ++ t ++ y) = true := by
  rw [accepts, toLower_around, lowerWithin_eq_toLower_iff.mpr h]
  exact occursIn_iff.mpr ⟨_, _, List.append_assoc _ _ _⟩

/-! ## Refused surroundings -/

/-- A letter before the text with which a sigma shifts makes the difference, unless the text begins
with it. -/
theorem refused_before {c d : Char} (hlower : ∀ before after, lowerWithin before [c] after = [d])
    (hne : (toLower t).head? ≠ some d) (hshifts : SigmaShifts [c] t []) :
      (plain t).accepts ([c] ++ t ++ []) = false := by
  refine Bool.eq_false_iff.mpr fun h => ?_
  rw [accepts, toLower_around, hlower, lowerWithin, List.append_nil] at h
  have hlen := length_lowerWithin [] [c].reverse t [] []
  rw [← toLower_eq] at hlen
  exact lowerWithin_eq_toLower_iff.mp (occursIn_cons_eq h hlen hne).symm hshifts

theorem refused_behind {c d : Char} (hlower : ∀ before after, lowerWithin before [c] after = [d])
    (hne : (toLower t).getLast? ≠ some d) (hshifts : SigmaShifts [] t [c]) :
      (plain t).accepts ([] ++ t ++ [c]) = false := by
  refine Bool.eq_false_iff.mpr fun h => ?_
  rw [accepts, toLower_around, hlower, lowerWithin, List.nil_append] at h
  have hlen := length_lowerWithin [] [].reverse t [] [c]
  rw [← toLower_eq] at hlen
  exact lowerWithin_eq_toLower_iff.mp (occursIn_concat_eq h hlen hne).symm hshifts

theorem exists_letter_ne (o : Option Char) :
    ∃ c, startsCased [c] = true ∧ (∀ before after, lowerWithin before [c] after = [c]) ∧
      o ≠ some c := by
  have hsmall : ∀ c ∈ ['a', 'b'], c ≠ '\u03A3' ∧ lowerOf c = [c] :=
    List.forall_iff_forall_mem.mp (by decide +kernel)
  have hletter : ∀ c ∈ ['a', 'b'], startsCased [c] = true ∧
      ∀ before after, lowerWithin before [c] after = [c] := by
    intro c hc
    refine ⟨startsCased_letters c (List.mem_append_left ['\u0391'] hc), fun before after => ?_⟩
    rw [lowerWithin, if_neg (hsmall c hc).1, (hsmall c hc).2, lowerWithin, List.append_nil]
  by_cases ha : o = some 'a'
  · obtain ⟨hcased, hlower⟩ := hletter 'b' (by simp)
    exact ⟨'b', hcased, hlower, by simp [ha]⟩
  · obtain ⟨hcased, hlower⟩ := hletter 'a' (by simp)
    exact ⟨'a', hcased, hlower, ha⟩

theorem exists_refused (h : HasExposedSigma t) :
    ∃ x y, (plain t).accepts (x ++ t ++ y) = false := by
  obtain ⟨u, v, ht, ⟨hu, hv⟩ | ⟨hu, hv⟩⟩ := h
  -- a letter that the small letters of the text do not begin or end with leaves the search one
  -- place for them
  · obtain ⟨c, hcased, hlower, hne⟩ := exists_letter_ne (toLower t).head?
    refine ⟨[c], [], refused_before hlower hne ⟨u, v, ht, .inl ⟨hu, ?_, ?_⟩⟩⟩
    · rwa [List.reverse_singleton]
    · simpa only [List.append_nil] using hv
  · obtain ⟨c, hcased, hlower, hne⟩ := exists_letter_ne (toLower t).getLast?
    exact ⟨[], [c], refused_behind hlower hne ⟨u, v, ht, .inr ⟨hu, hv, hcased⟩⟩⟩

/-- A text is found in all texts that hold it just if it has no sigma whose form hangs on what
stands around it; and whatever the text, it is found where no sigma of it shifts. -/
theorem plain_accepts_around (t : Text) :
    ((∀ x y, (plain t).accepts (x ++ t ++ y) = true) ↔ ¬ HasExposedSigma t) ∧
      ∀ x y, ¬ SigmaShifts x t y → (plain t).accepts (x ++ t ++ y) = true := by
  refine ⟨⟨?_, fun h x y => accepts_plain_of_not_shifts (mt hasExposedSigma_of_shifts h)⟩,
    fun x y => accepts_plain_of_not_shifts⟩
  intro h hexposed
  obtain ⟨x, y, hrefused⟩ := exists_refused hexposed
  rw [h x y] at hrefused
  cases hrefused

/-- A sigma inside a word has one form wherever the word stands. -/
theorem plain_accepts_around_inner_sigma :
    let t : Text := ['\u03A3', '\u0391']
    ¬ HasExposedSigma t ∧ ¬ SigmaShifts ['\u0391'] t ['\u03A3'] ∧
      (plain t).accepts (['\u0391'] ++ t ++ ['\u03A3']) = true := by
  intro t
  have hexposed : ¬ HasExposedSigma t := by
    rintro ⟨u, v, ht, h⟩
    obtain ⟨rfl, rfl⟩ : u = [] ∧ v = ['\u0391'] := by
      rcases u with _ | ⟨c, _ | ⟨d, u⟩⟩ <;> simp [t] at ht
      exact ⟨rfl, ht.symm⟩
    rcases h with ⟨-, h⟩ | ⟨h, -⟩
    · rw [startsCased_letters '\u0391' (by simp)] at h
      cases h
    · cases h
  have hshifts : ¬ SigmaShifts ['\u0391'] t ['\u03A3'] := mt hasExposedSigma_of_shifts hexposed
  exact ⟨hexposed, hshifts, (plain_accepts_around t).2 _ _ hshifts⟩

/-- A word of two capitals is refused although it ends with the text. -/
theorem final_sigma_refused :
    (plain ['\u03A3']).accepts (['\u0391'] ++ ['\u03A3'] ++ []) = false := by
  have hlower : ∀ before after, lowerWithin before ['\u0391'] after = ['\u03B1'] := by
    have halpha : lowerOf '\u0391' = ['\u03B1'] := by decide +kernel
    intro before after
    rw [lowerWithin, if_neg (by decide), halpha, lowerWithin, List.append_nil]
  refine refused_before hlower (by decide +kernel) ⟨[], [], rfl, .inl ⟨rfl, ?_, rfl⟩⟩
  rw [List.reverse_singleton]
  exact startsCased_letters '\u0391' (by simp)

end Scenarist.TextMatcher

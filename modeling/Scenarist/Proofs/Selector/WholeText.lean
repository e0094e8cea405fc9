import Scenarist.Proofs.Pattern.Folded
import Scenarist.Selector.TextMatcher

/-! # The whole text whatever its case

The matcher of a text in quotes with an `i` behind it is a pattern. It compiles for every text, and
what it accepts is the text itself up to the case of each character.
-/

namespace Scenarist

open Unicode

/-- No other character folds as one with a meaning of its own does. -/
theorem Unicode.eq_of_fold_meta {c d : Char} (hmeta : Pattern.Cursor.isMeta c = true)
    (h : fold d = fold c) : d = c := by
  have alone : ∀ c ∈
      ['\\', '.', '+', '*', '?', '(', ')', '|', '[', ']', '\x7b', '\x7d', '^', '$', '#', '&', '-',
    '~'],
      orbit c = [c] := List.forall_iff_forall_mem.mp (by decide +kernel)
  have horbit := mem_orbit.mpr h
  rw [alone c (of_decide_eq_true hmeta)] at horbit
  exact List.mem_singleton.mp horbit

namespace TextMatcher

theorem accepts_exactIgnoreCase {t u : Text} :
    (exactIgnoreCase t).accepts u = true ↔ u.map fold = t.map fold := by
  rw [exactIgnoreCase, accepts, Pattern.compile_whole]
  exact Pattern.Expr.occursIn_whole t u

theorem map_fold_eq_padded_iff {x u y : Text} :
    u.map fold = (x ++ u ++ y).map fold ↔ x = [] ∧ y = [] := by
  constructor
  · intro h
    have hlen := congrArg List.length h
    simp only [List.length_map, List.length_append] at hlen
    exact ⟨List.eq_nil_of_length_eq_zero (by omega), List.eq_nil_of_length_eq_zero (by omega)⟩
  · rintro ⟨rfl, rfl⟩
    simp

/-- The matcher compiles, and it accepts just the texts of as many characters that fold one by one
as those of the text do. So it accepts the text, no longer text around it and no part of it, and in
the place of a character with a meaning in patterns only that character. -/
theorem exactIgnoreCase_accepts_whole (t : Text) :
    (∃ p f e, exactIgnoreCase t = .regex p f ∧ Pattern.compile p f = .ok e) ∧
      (∀ u, (exactIgnoreCase t).accepts u = true ↔
        u.length = t.length ∧ ∀ i (hu : i < u.length) (ht : i < t.length), fold u[i] = fold t[i]) ∧
      (exactIgnoreCase t).accepts t = true ∧
      (∀ x y, (exactIgnoreCase t).accepts (x ++ t ++ y) = true ↔ x = [] ∧ y = []) ∧
      (∀ x u y, t = x ++ u ++ y → ((exactIgnoreCase t).accepts u = true ↔ x = [] ∧ y = [])) ∧
      ∀ u, (exactIgnoreCase t).accepts u = true → ∀ i (hu : i < u.length) (ht : i < t.length),
        Pattern.Cursor.isMeta t[i] = true → u[i] = t[i] := by
  have hpoint : ∀ u, (exactIgnoreCase t).accepts u = true ↔
      u.length = t.length ∧ ∀ i (hu : i < u.length) (ht : i < t.length), fold u[i] = fold t[i] := by
    intro u
    rw [accepts_exactIgnoreCase, List.ext_getElem_iff]
    simp
  refine ⟨⟨_, _, _, rfl, Pattern.compile_whole t⟩, hpoint, accepts_exactIgnoreCase.mpr rfl, ?_, ?_,
    ?_⟩
  · intro x y
    rw [accepts_exactIgnoreCase, eq_comm]
    exact map_fold_eq_padded_iff
  · rintro x u y rfl
    rw [accepts_exactIgnoreCase]
    exact map_fold_eq_padded_iff
  · intro u haccepts i hu ht hmeta
    exact eq_of_fold_meta hmeta (((hpoint u).mp haccepts).2 i hu ht)

/-- A number in other letters, without its end, with a line end behind it, and with a comma for its
point. -/
theorem exactIgnoreCase_accepts_whole_number :
    let number : Text := "No.1"
    (exactIgnoreCase number).accepts "nO.1" = true ∧ (exactIgnoreCase number).accepts "No" = false ∧
      (exactIgnoreCase number).accepts (number ++ ['\n']) = false ∧
        (exactIgnoreCase number).accepts "No,1" = false := by
  intro number
  obtain ⟨-, hpoint, -, hlonger, hpart, hmeta⟩ := exactIgnoreCase_accepts_whole number
  have hletters : ∀ i : Fin 4, fold (("nO.1" : Text).get i) = fold (number.get i) := by
    decide +kernel
  refine ⟨(hpoint _).mpr ⟨rfl, fun i hc _ => hletters ⟨i, hc⟩⟩, ?_, ?_, ?_⟩
    <;> refine Bool.eq_false_iff.mpr fun h => ?_
  · exact absurd ((hpart [] _ ".1" rfl).mp h).2 (by decide)
  · exact absurd ((hlonger [] ['\n']).mp h).2 (by decide)
  · exact absurd (hmeta _ h 2 (by decide) (by decide) (by decide)) (by decide)

end TextMatcher

end Scenarist

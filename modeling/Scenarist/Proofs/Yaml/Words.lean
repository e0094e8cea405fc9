import Scenarist.Proofs.Yaml.Piece
import Scenarist.Proofs.Yaml.Scalars

/-! # Scalars that are words

Null, the booleans and all numbers are written as words.
-/

namespace Scenarist.Yaml

open Layout

theorem isWord_of_length {w : Text} (h : ∀ c ∈ w, isWordChar c = true) (hlength : 2 ≤ w.length) :
    isWord w = true := by
  have hall : w.all isWordChar = true := List.all_eq_true.mpr h
  match w with
  | c :: d :: r => simp [isWord, hall]

theorem isWordChar_digit {c : Char} (h : c.isDigit = true) : isWordChar c = true := by
  simp [isWordChar, Char.isAlphanum, h]

theorem ofNat_chars (n : Nat) : ∀ c ∈ Text.ofNat n, isWordChar c = true :=
  fun _ hc => isWordChar_digit (Text.isDigit_of_mem_ofNat hc)

theorem isWord_ofNat (n : Nat) : isWord (Text.ofNat n) = true := by
  obtain ⟨c, r, heq, hc⟩ := Text.ofNat_eq_cons n
  have hall : (Text.ofNat n).all isWordChar = true := List.all_eq_true.mpr (ofNat_chars n)
  have hdash : c ≠ '-' := by
    rintro rfl
    exact absurd hc (by decide)
  rw [isWord, hall, heq]
  simp [hdash]

theorem isWord_ofInt (n : Int) : isWord (Text.ofInt n) = true := by
  cases n with
  | ofNat n => exact isWord_ofNat n
  | negSucc n =>
    obtain ⟨c, r, heq, hc⟩ := Text.ofNat_eq_cons (n + 1)
    refine isWord_of_length ?_ ?_
    · intro c hc
      rcases List.mem_cons.mp hc with rfl | hc
      · rfl
      · exact ofNat_chars _ c hc
    · rw [Text.ofInt, heq]
      simp

/-! ## Doubles -/

theorem isWord_realText (x : Binary64) : isWord (realText x) = true := by
  unfold realText
  split
  · decide
  split
  · split <;> decide
  · have hchars : ∀ c ∈ Decimal.fractionalMagnitude x, isWordChar c = true := by
      intro c hc
      rcases Decimal.fractionalMagnitude_mem hc with h | rfl | rfl | rfl
      · exact isWordChar_digit h
      · rfl
      · rfl
      · rfl
    obtain ⟨c, r, m, heq, -, hm, -⟩ := Decimal.fractionalMagnitude_start x
    have hlength : 0 < r.length := List.length_pos_of_mem hm
    refine isWord_of_length ?_ ?_
    · intro c hc
      rcases List.mem_append.mp hc with hc | hc
      · unfold Decimal.sign at hc
        split at hc
        · rw [List.mem_singleton.mp hc]
          rfl
        · exact absurd hc (by simp)
      · exact hchars c hc
    · rw [Decimal.fractional, heq, List.length_append, List.length_cons]
      omega

theorem isWord_numberText (n : Number) : isWord (numberText n) = true := by
  cases n with
  | integer n => exact isWord_ofInt n
  | real x => exact isWord_realText x

theorem isWord_scalar :
    isWord (scalar .null) = true ∧ (∀ b, isWord (scalar (.bool b)) = true) ∧
      ∀ n, isWord (scalar (.number n)) = true :=
  ⟨by decide, fun b => by cases b <;> decide, isWord_numberText⟩

/-! ## Marks -/

theorem isUnmarked_numeric {t : Text} (h : Scalar.IsNumeric t) : isUnmarked t = true := by
  obtain ⟨c, r, hc, heq⟩ := h
  have hdash : c ≠ '-' := by
    rintro rfl
    exact absurd hc (by decide)
  have hdot : c ≠ '.' := by
    rintro rfl
    exact absurd hc (by decide)
  rcases heq with rfl | rfl
  · cases r <;> simp [isUnmarked, hdash, hdot]
  · simp [isUnmarked, hdash]

theorem isUnmarked_numberText (n : Number) : isUnmarked (numberText n) = true := by
  cases n with
  | integer n => exact isUnmarked_numeric (Scalar.isNumeric_ofInt n)
  | real x =>
    rw [numberText, realText]
    split
    · decide
    split
    · split <;> decide
    · exact isUnmarked_numeric (Scalar.isNumeric_fractional x)

theorem isUnmarked_scalar :
    isUnmarked (scalar .null) = true ∧ (∀ b, isUnmarked (scalar (.bool b)) = true) ∧
      ∀ n, isUnmarked (scalar (.number n)) = true :=
  ⟨by decide, fun b => by cases b <;> decide, isUnmarked_numberText⟩

end Scenarist.Yaml

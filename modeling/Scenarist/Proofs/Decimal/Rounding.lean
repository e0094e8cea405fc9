import Mathlib.Algebra.Order.Field.Power
import Mathlib.Algebra.Order.Ring.Rat
import Mathlib.Tactic.FieldSimp
import Mathlib.Tactic.Linarith
import Mathlib.Tactic.NormNum
import Mathlib.Tactic.Positivity
import Mathlib.Tactic.Ring
import Scenarist.Decimal.Shortest

/-! # Rounding

A finite double stands for the fractions that round to it: those no farther than half way to its
neighbours, and the ends themselves when its mantissa is even.
-/

namespace Scenarist.Binary64

/-! ## Division to the nearest -/

theorem roundDiv_eq {n d m : Nat} (hd : 0 < d) (hlow : 2 * (m * d) ≤ 2 * n + d)
    (hhigh : 2 * n ≤ 2 * (m * d) + d)
    (htie : 2 * (m * d) = 2 * n + d ∨ 2 * n = 2 * (m * d) + d → m % 2 = 0) : roundDiv n d = m := by
  have hdiv := Nat.div_add_mod n d
  have hmod := Nat.mod_lt n hd
  have hcomm : d * (n / d) = n / d * d := Nat.mul_comm _ _
  have hle : n / d ≤ m := by
    by_contra hlt
    have : (m + 1) * d ≤ n / d * d := Nat.mul_le_mul_right d (by omega)
    rw [Nat.add_mul] at this
    omega
  have hge : m ≤ n / d + 1 := by
    by_contra hlt
    have : (n / d + 2) * d ≤ m * d := Nat.mul_le_mul_right d (by omega)
    rw [Nat.add_mul] at this
    omega
  obtain rfl | rfl : m = n / d ∨ m = n / d + 1 := by omega
  · simp only [roundDiv]
    split
    · rfl
    split
    · omega
    · have := htie (by omega)
      omega
  · rw [Nat.add_mul] at hlow hhigh htie
    simp only [roundDiv]
    split
    · omega
    split
    · rfl
    · have := htie (by omega)
      omega

theorem roundDiv_of_near {n d m : Nat} (hd : 0 < d) {y : ℚ} (hy : y = n / d) (hlow : m - 1 / 2 ≤ y)
    (hhigh : y ≤ m + 1 / 2) (htie : y = m - 1 / 2 ∨ y = m + 1 / 2 → m % 2 = 0) :
      roundDiv n d = m := by
  have hd' : (0 : ℚ) < d := by exact_mod_cast hd
  have hn : (n : ℚ) = y * d := by rw [hy]; field_simp
  apply roundDiv_eq hd
  · have : (2 * (m * d) : ℚ) ≤ 2 * n + d := by rw [hn]; nlinarith
    exact_mod_cast this
  · have : (2 * n : ℚ) ≤ 2 * (m * d) + d := by rw [hn]; nlinarith
    exact_mod_cast this
  · rintro (h | h)
    · have h' : (2 * (m * d) : ℚ) = 2 * n + d := by exact_mod_cast h
      refine htie (.inl ?_)
      have : y * d = (m - 1 / 2) * d := by rw [← hn]; linarith
      exact mul_right_cancel₀ (ne_of_gt hd') this
    · have h' : (2 * n : ℚ) = 2 * (m * d) + d := by exact_mod_cast h
      refine htie (.inr ?_)
      have : y * d = (m + 1 / 2) * d := by rw [← hn]; linarith
      exact mul_right_cancel₀ (ne_of_gt hd') this

/-! ## Powers of two -/

theorem scaleRatio_spec (num : Nat) {den : Nat} (hden : 0 < den) (e : Int) :
    0 < (scaleRatio num den e).2 ∧
      ((scaleRatio num den e).1 : ℚ) / (scaleRatio num den e).2 = num / den * 2 ^ (-e) := by
  have hden' : (0 : ℚ) < den := by exact_mod_cast hden
  unfold scaleRatio
  split
  · rename_i he
    refine ⟨hden, ?_⟩
    have hpow : (2 : ℚ) ^ (-e) = 2 ^ e.natAbs := by
      rw [← zpow_natCast]
      congr 1
      omega
    rw [hpow]
    push_cast [Nat.pow_eq]
    ring
  · rename_i he
    have hpow : (2 : ℚ) ^ (-e) = (2 ^ e.natAbs)⁻¹ := by
      rw [zpow_neg, ← zpow_natCast]
      congr 2
      omega
    refine ⟨Nat.mul_pos hden (Nat.pow_pos (by decide)), ?_⟩
    rw [hpow]
    push_cast [Nat.pow_eq]
    field_simp

theorem log2_bounds {n : Nat} (h : 0 < n) :
    (2 : ℚ) ^ (n.log2 : Int) ≤ n ∧ (n : ℚ) < 2 ^ (n.log2 + 1 : Int) := by
  have hne : n ≠ 0 := by omega
  constructor
  · rw [zpow_natCast]
    exact_mod_cast Nat.log2_self_le hne
  · have : n < 2 ^ (n.log2 + 1) := Nat.lt_log2_self
    have hcast : (2 : ℚ) ^ (n.log2 + 1 : Int) = ((2 ^ (n.log2 + 1) : Nat) : ℚ) := by
      push_cast
      rw [← zpow_natCast]
      push_cast
      rfl
    rw [hcast]
    exact_mod_cast this

theorem mul_two_zpow (y : ℚ) (e k : Int) : y * 2 ^ (-e) = y * 2 ^ (-(e + k)) * 2 ^ k := by
  rw [mul_assoc, ← zpow_add₀ (by norm_num)]
  congr 2
  ring

/-! ## The unit of a fraction -/

theorem guess_bounds {num den : Nat} (hnum : 0 < num) (hden : 0 < den) {guess : Int}
    (hguess : guess = (num.log2 : Int) - den.log2 - 52) :
    (2 : ℚ) ^ (51 : Int) < num / den * 2 ^ (-guess) ∧
      (num / den * 2 ^ (-guess) : ℚ) < 2 ^ (53 : Int) := by
  obtain ⟨hnumLow, hnumHigh⟩ := log2_bounds hnum
  obtain ⟨hdenLow, hdenHigh⟩ := log2_bounds hden
  have hden' : (0 : ℚ) < den := by exact_mod_cast hden
  have hunit : (0 : ℚ) < 2 ^ (-guess) := by positivity
  have hpow : ∀ a b : Int, (2 : ℚ) ^ (a + b) = 2 ^ a * 2 ^ b :=
    fun a b => zpow_add₀ (by norm_num) a b
  constructor
  · have hlow : (2 : ℚ) ^ (51 : Int) * den < 2 ^ (-guess) * num := by
      calc (2 : ℚ) ^ (51 : Int) * den < 2 ^ (51 : Int) * 2 ^ (den.log2 + 1 : Int) := by gcongr
        _ = 2 ^ (-guess) * 2 ^ (num.log2 : Int) := by
          rw [← hpow, ← hpow]
          congr 1
          omega
        _ ≤ 2 ^ (-guess) * num := by gcongr
    rw [div_mul_eq_mul_div, lt_div_iff₀ hden']
    linarith
  · have hhigh : 2 ^ (-guess) * (num : ℚ) < 2 ^ (53 : Int) * den := by
      calc 2 ^ (-guess) * (num : ℚ) < 2 ^ (-guess) * 2 ^ (num.log2 + 1 : Int) := by gcongr
        _ = 2 ^ (53 : Int) * 2 ^ (den.log2 : Int) := by
          rw [← hpow, ← hpow]
          congr 1
          omega
        _ ≤ 2 ^ (53 : Int) * den := by gcongr
    rw [div_mul_eq_mul_div, div_lt_iff₀ hden']
    linarith

theorem top_bounds {num den : Nat} (hnum : 0 < num) (hden : 0 < den) {guess top : Int}
    (hguess : guess = (num.log2 : Int) - den.log2 - 52)
    (htop : top = if (scaleRatio num den guess).1 / (scaleRatio num den guess).2 < 0x10000000000000
      then guess - 1 else guess) :
    (2 : ℚ) ^ 52 ≤ num / den * 2 ^ (-top) ∧ (num / den * 2 ^ (-top) : ℚ) < 2 ^ 53 := by
  obtain ⟨hlow, hhigh⟩ := guess_bounds hnum hden hguess
  obtain ⟨hpos, hvalue⟩ := scaleRatio_spec num hden guess
  have hpos' : (0 : ℚ) < (scaleRatio num den guess).2 := by exact_mod_cast hpos
  split at htop
  · rename_i hsmall
    have hlt : (num / den * 2 ^ (-guess) : ℚ) < 2 ^ 52 := by
      rw [← hvalue, div_lt_iff₀ hpos']
      rw [Nat.div_lt_iff_lt_mul hpos] at hsmall
      exact_mod_cast hsmall
    have hmove := mul_two_zpow (num / den : ℚ) top 1
    rw [show top + 1 = guess by omega] at hmove
    rw [hmove]
    norm_num at hlow hlt ⊢
    constructor <;> linarith
  · rename_i hlarge
    subst htop
    refine ⟨?_, by exact_mod_cast hhigh⟩
    rw [← hvalue, le_div_iff₀ hpos']
    have := (Nat.le_div_iff_mul_le hpos).mp (not_lt.mp hlarge)
    exact_mod_cast this

/-- A fraction is rounded in a unit in which it has 53 bits, or in the smallest unit. -/
theorem magnitudeOfRatio_spec {num den : Nat} (hnum : 0 < num) (hden : 0 < den) :
    ∃ (e : Int) (n d : Nat), -1074 ≤ e ∧ 0 < d ∧ (n / d : ℚ) = num / den * 2 ^ (-e) ∧
      (n / d : ℚ) < 2 ^ 53 ∧ (e = -1074 ∨ (2 ^ 52 : ℚ) ≤ n / d) ∧
      magnitudeOfRatio num den =
        min ((e + 1074).toNat * 0x10000000000000 + roundDiv n d) infinityBits := by
  obtain ⟨guess, hguess⟩ : ∃ g, g = (num.log2 : Int) - den.log2 - 52 := ⟨_, rfl⟩
  obtain ⟨top, htop⟩ :
      ∃ e, e = if (scaleRatio num den guess).1 / (scaleRatio num den guess).2 < 0x10000000000000
    then guess - 1 else guess := ⟨_, rfl⟩
  obtain ⟨hlow, hhigh⟩ := top_bounds hnum hden hguess htop
  obtain ⟨e, he⟩ : ∃ e, e = max top (-1074) := ⟨_, rfl⟩
  obtain ⟨hden', hvalue⟩ := scaleRatio_spec num hden e
  refine ⟨e, _, _, by omega, hden', hvalue, ?_, ?_, ?_⟩
  · rw [hvalue]
    have hle : (2 : ℚ) ^ (-e) ≤ 2 ^ (-top) := zpow_le_zpow_right₀ (by norm_num) (by omega)
    have hy : (0 : ℚ) ≤ num / den := by positivity
    calc (num / den * 2 ^ (-e) : ℚ) ≤ num / den * 2 ^ (-top) := by gcongr
      _ < 2 ^ 53 := hhigh
  · rcases Int.le_total top (-1074) with hle | hle
    · exact .inl (by omega)
    · right
      rw [hvalue, show e = top by omega]
      exact hlow
  · rw [magnitudeOfRatio, if_neg (by omega)]
    simp only [← hguess, ← htop, ← he]

/-! ## The fractions of a double -/

variable {x : Binary64}

theorem fraction_lt (x : Binary64) : x.fraction < 0x10000000000000 := Nat.mod_lt _ (by decide)

theorem exponentField_lt (h : x.isFinite = true) : x.exponentField < 2047 := by
  have hlt : x.exponentField < 0x800 := Nat.mod_lt _ (by decide)
  have hne : x.exponentField ≠ 2047 := by simpa [isFinite] using h
  omega

theorem mantissa_lt (x : Binary64) : x.mantissa < 0x20000000000000 := by
  have := fraction_lt x
  unfold mantissa
  split <;> omega

theorem mantissa_pos (h : x.isZero = false) : 0 < x.mantissa := by
  have hne : x.exponentField = 0 → x.fraction ≠ 0 := by simpa [isZero] using h
  unfold mantissa
  split
  · rename_i hzero
    exact Nat.pos_of_ne_zero (hne hzero)
  · omega

theorem exponent_bounds (h : x.isFinite = true) : -1074 ≤ x.exponent ∧ x.exponent ≤ 971 := by
  have := exponentField_lt h
  unfold exponent
  omega

theorem mantissa_ge (h : -1074 < x.exponent) : 0x10000000000000 ≤ x.mantissa := by
  unfold exponent at h
  rw [mantissa, if_neg (by omega)]
  omega

theorem bits_eq (x : Binary64) :
    x.bits.toNat % 0x8000000000000000 = (x.exponent + 1074).toNat * 0x10000000000000 +
      x.mantissa := by
  have hfield :
      x.exponentField * 0x10000000000000 + x.fraction = x.bits.toNat % 0x8000000000000000 := by
    unfold exponentField fraction
    omega
  rw [← hfield]
  unfold exponent mantissa
  split <;> omega

theorem signed_bits (x : Binary64) :
    signed x.isNegative ((x.exponent + 1074).toNat * 0x10000000000000 + x.mantissa) = x := by
  have hlt := x.bits.toNat_lt
  rw [← bits_eq]
  have hsum : (if x.isNegative then x.bits.toNat % 0x8000000000000000 + 0x8000000000000000
      else x.bits.toNat % 0x8000000000000000) = x.bits.toNat := by
    unfold isNegative
    split
    · rename_i h
      rw [decide_eq_true_iff] at h
      omega
    · rename_i h
      rw [decide_eq_true_iff] at h
      omega
  rw [signed, hsum, UInt64.ofNat_toNat]

/-- How many quarters of its unit a double reaches down. Below a power of two the next number is
only half as far away. -/
def reach (x : Binary64) : Nat := if x.fraction = 0 ∧ 1 < x.exponentField then 1 else 2

theorem reach_cases (x : Binary64) :
    x.reach = 1 ∧ x.mantissa = 0x10000000000000 ∨
      x.reach = 2 ∧ (x.mantissa = 0x10000000000000 → x.exponent = -1074) := by
  have := fraction_lt x
  unfold reach
  split
  · rename_i h
    left
    rw [mantissa, if_neg (by omega)]
    omega
  · rename_i h
    refine .inr ⟨rfl, ?_⟩
    unfold mantissa exponent
    split <;> omega

/-- The fraction is no farther from the double than half way to its neighbours. -/
structure Rounds (x : Binary64) (y : ℚ) : Prop where
  low : (x.mantissa - x.reach / 4 : ℚ) ≤ y * 2 ^ (-x.exponent)
  high : y * 2 ^ (-x.exponent) ≤ (x.mantissa + 1 / 2 : ℚ)
  tie : y * 2 ^ (-x.exponent) = (x.mantissa - x.reach / 4 : ℚ) ∨
    y * 2 ^ (-x.exponent) = (x.mantissa + 1 / 2 : ℚ) →
    x.mantissa % 2 = 0

/-! ## Rounding in a unit

Of a fraction that rounds to a double, `n / d` is the quotient in the unit `2 ^ e`.
-/

section Unit

variable {y : ℚ} {n d : Nat} {e : Int}

theorem Rounds.same_unit (h : Rounds x y) (hd : 0 < d)
    (hquotient : (n / d : ℚ) = y * 2 ^ (-x.exponent)) :
    roundDiv n d = x.mantissa := by
  obtain ⟨hlow, hhigh, htie⟩ := h
  rw [← hquotient] at hlow hhigh htie
  refine roundDiv_of_near hd rfl ?_ hhigh ?_
  · rcases reach_cases x with ⟨hreach, -⟩ | ⟨hreach, -⟩ <;> rw [hreach] at hlow
      <;> norm_num at hlow ⊢ <;> linarith
  · rintro (h | h)
    · refine htie (.inl ?_)
      rcases reach_cases x with ⟨hreach, -⟩ | ⟨hreach, -⟩ <;> rw [hreach] at hlow ⊢
        <;> norm_num at hlow ⊢ <;>
        linarith
    · exact htie (.inr h)

/-- The unit is smaller only next to a power of two, where the quotient rounds up to it. -/
theorem Rounds.smaller_unit (h : Rounds x y) (hd : 0 < d) (hquotient : (n / d : ℚ) = y * 2 ^ (-e))
    (hbits : (n / d : ℚ) < 2 ^ 53) (hleast : -1074 ≤ e) (hlt : e < x.exponent) :
    x.exponent = e + 1 ∧ x.mantissa = 0x10000000000000 ∧ roundDiv n d = 0x20000000000000 := by
  obtain ⟨k, hk⟩ : ∃ k : Nat, x.exponent = e + 1 + k := ⟨(x.exponent - e - 1).toNat, by omega⟩
  have hmove : (n / d : ℚ) = y * 2 ^ (-x.exponent) * (2 * 2 ^ k) := by
    rw [hquotient, mul_two_zpow _ e (x.exponent - e),
      show e + (x.exponent - e) = x.exponent by omega,
      show x.exponent - e = 1 + k by omega, zpow_add₀ (by norm_num), zpow_natCast, zpow_one]
  have hpow : (1 : ℚ) ≤ 2 ^ k := one_le_pow₀ (by norm_num)
  have hlow := h.low
  generalize y * 2 ^ (-x.exponent) = w at hmove hlow
  rcases reach_cases x with ⟨hreach, hpower⟩ | ⟨hreach, hother⟩
  · rw [hreach, hpower] at hlow
    norm_num at hlow
    obtain rfl : k = 0 := by
      by_contra hne
      have : (2 : ℚ) ≤ 2 ^ k := le_self_pow₀ (by norm_num) hne
      nlinarith
    refine ⟨by omega, hpower, roundDiv_of_near hd rfl ?_ ?_ fun _ => rfl⟩
    · rw [hmove]
      norm_num
      linarith
    · norm_num
      linarith
  · have hlarge : 0x10000000000000 < x.mantissa :=
      lt_of_le_of_ne (mantissa_ge (by omega)) fun h => by have := hother h.symm; omega
    have : (0x10000000000000 + 1 : ℚ) ≤ x.mantissa := by exact_mod_cast hlarge
    rw [hreach] at hlow
    norm_num at hlow
    nlinarith

theorem Rounds.unit_le (h : Rounds x y) (hquotient : (n / d : ℚ) = y * 2 ^ (-e))
    (hbits : (2 ^ 52 : ℚ) ≤ n / d) :
    e ≤ x.exponent := by
  by_contra hgt
  obtain ⟨k, hk⟩ : ∃ k : Nat, e = x.exponent + 1 + k := ⟨(e - x.exponent - 1).toNat, by omega⟩
  have hmove : y * 2 ^ (-x.exponent) = n / d * (2 * 2 ^ k) := by
    rw [hquotient, mul_two_zpow _ x.exponent (1 + k), show x.exponent + (1 + k) = e by omega,
      zpow_add₀ (by norm_num), zpow_natCast, zpow_one]
  have hpow : (1 : ℚ) ≤ 2 ^ k := one_le_pow₀ (by norm_num)
  have hmantissa : (x.mantissa + 1 : ℚ) ≤ 2 ^ 53 := by exact_mod_cast mantissa_lt x
  have hhigh := h.high
  nlinarith

end Unit

theorem magnitudeOfRatio_of_rounds {num den : Nat} (hnum : 0 < num) (hden : 0 < den)
    (hfinite : x.isFinite = true)
    (h : Rounds x (num / den)) :
    magnitudeOfRatio num den = (x.exponent + 1074).toNat * 0x10000000000000 + x.mantissa := by
  obtain ⟨e, n, d, hsmallest, hd, hquotient, hbits, hunit, heq⟩ := magnitudeOfRatio_spec hnum hden
  obtain ⟨hleast, hgreatest⟩ := exponent_bounds hfinite
  have hfits : (x.exponent + 1074).toNat * 0x10000000000000 + x.mantissa ≤ infinityBits := by
    have := mantissa_lt x
    unfold infinityBits
    omega
  suffices hround : (e + 1074).toNat * 0x10000000000000 + roundDiv n d
      = (x.exponent + 1074).toNat * 0x10000000000000 + x.mantissa by
    rw [heq, hround]
    exact Nat.min_eq_left hfits
  rcases lt_trichotomy e x.exponent with hlt | rfl | hgt
  · obtain ⟨hnext, hpower, hround⟩ := h.smaller_unit hd hquotient hbits hsmallest hlt
    rw [hround, hpower]
    omega
  · rw [h.same_unit hd hquotient]
  · exact absurd (h.unit_le hquotient (hunit.resolve_left (by omega))) (not_le.mpr hgt)

theorem ofRatio_of_rounds {num den : Nat} (hnum : 0 < num) (hden : 0 < den)
    (hfinite : x.isFinite = true)
    (h : Rounds x (num / den)) : ofRatio x.isNegative num den = x := by
  rw [ofRatio, magnitudeOfRatio_of_rounds hnum hden hfinite h, signed_bits]

/-! ## Decimals -/

theorem zpow_ten_cast (e : Int) (he : 0 ≤ e) :
    (10 : ℚ) ^ e = ((Nat.pow 10 e.natAbs : Nat) : ℚ) := by
  push_cast [Nat.pow_eq]
  rw [← zpow_natCast]
  congr 1
  omega

theorem zpow_ten_inv (e : Int) (he : e < 0) :
    (10 : ℚ) ^ e = (((Nat.pow 10 e.natAbs : Nat) : ℚ))⁻¹ := by
  rw [show e.natAbs = (-e).natAbs by omega, ← zpow_ten_cast (-e) (by omega), zpow_neg, inv_inv]

theorem toDigits_bounds {n : Nat} (h : 0 < n) :
    (10 : ℚ) ^ (((Nat.toDigits 10 n).length : Int) - 1) ≤ n ∧
    (n : ℚ) < 10 ^ ((Nat.toDigits 10 n).length : Int) := by
  obtain ⟨k, hk⟩ : ∃ k, (Nat.toDigits 10 n).length = k + 1 :=
    ⟨_, (Nat.succ_pred_eq_of_pos Nat.length_toDigits_pos).symm⟩
  constructor
  · have hle : 10 ^ k ≤ n := by
      rcases Nat.eq_zero_or_pos k with rfl | hpos
      · exact h
      · by_contra hlt
        have := (Nat.length_toDigits_le_iff (by decide) hpos).mpr (not_le.mp hlt)
        omega
    rw [hk, show ((k + 1 : Nat) : Int) - 1 = k by omega, zpow_natCast]
    exact_mod_cast hle
  · have hlt : n < 10 ^ (k + 1) := (Nat.length_toDigits_le_iff (by decide) (by omega)).mp hk.le
    rw [hk, zpow_natCast]
    exact_mod_cast hlt

theorem two_pow_le (k : Nat) : (2 : ℚ) ^ ((33 * k : Nat) : Int) ≤ 10 ^ ((10 * k : Nat) : Int) := by
  rw [zpow_natCast, zpow_natCast, pow_mul, pow_mul]
  gcongr
  norm_num

theorem Rounds.range {y : ℚ} (hfinite : x.isFinite = true) (hzero : x.isZero = false)
    (h : Rounds x y) :
    (10 : ℚ) ^ (-330 : Int) ≤ y ∧ y < 10 ^ (311 : Int) := by
  obtain ⟨hlow, hhigh, -⟩ := h
  obtain ⟨hleast, hgreatest⟩ := exponent_bounds hfinite
  have hmantissa : (1 : ℚ) ≤ x.mantissa := by exact_mod_cast mantissa_pos hzero
  have hbits : (x.mantissa : ℚ) ≤ 0x20000000000000 := by exact_mod_cast (mantissa_lt x).le
  have hreach : (x.reach : ℚ) ≤ 2 := by
    rcases reach_cases x with ⟨h, -⟩ | ⟨h, -⟩ <;> rw [h] <;> norm_num
  have hy : y = y * 2 ^ (-x.exponent) * 2 ^ x.exponent := by
    rw [mul_assoc, ← zpow_add₀ (by norm_num), Int.add_left_neg, zpow_zero, mul_one]
  have hsmall : (2 : ℚ) ^ (-1074 : Int) ≤ 2 ^ x.exponent := zpow_le_zpow_right₀ (by norm_num) hleast
  have hlarge : (2 : ℚ) ^ x.exponent ≤ 2 ^ (971 : Int) :=
    zpow_le_zpow_right₀ (by norm_num) hgreatest
  constructor
  · calc (10 : ℚ) ^ (-330 : Int) ≤ 2 ^ (-1075 : Int) := by
          rw [zpow_neg, zpow_neg]
          refine inv_anti₀ (by positivity) (le_trans ?_ (two_pow_le 33))
          exact zpow_le_zpow_right₀ (by norm_num) (by decide)
      _ = 1 / 2 * 2 ^ (-1074 : Int) := by
          rw [show (-1075 : Int) = -1 + -1074 by decide, zpow_add₀ (by norm_num), zpow_neg_one,
            one_div]
      _ ≤ y * 2 ^ (-x.exponent) * 2 ^ x.exponent := by
          have hhalf : 1 / 2 ≤ y * 2 ^ (-x.exponent) := by linarith only [hlow, hmantissa, hreach]
          exact mul_le_mul hhalf hsmall (by positivity) (le_trans (by norm_num) hhalf)
      _ = y := hy.symm
  · calc y = y * 2 ^ (-x.exponent) * 2 ^ x.exponent := hy
      _ ≤ 2 ^ (54 : Int) * 2 ^ (971 : Int) := by
          have hpow : (2 : ℚ) ^ (54 : Int) = 0x40000000000000 := by norm_num
          have hle : y * 2 ^ (-x.exponent) ≤ 2 ^ (54 : Int) := by
            rw [hpow]; linarith only [hhigh, hbits]
          exact mul_le_mul hle hlarge (by positivity) (by positivity)
      _ ≤ 2 ^ ((33 * 31 : Nat) : Int) * 4 := by
          rw [← zpow_add₀ (by norm_num), show (54 + 971 : Int) = (33 * 31 : Nat) + 2 by decide,
            zpow_add₀ (by norm_num)]
          norm_num
      _ ≤ 10 ^ ((10 * 31 : Nat) : Int) * 4 :=
        mul_le_mul_of_nonneg_right (two_pow_le 31) (by norm_num)
      _ < 10 ^ (311 : Int) := by
          rw [show (311 : Int) = (10 * 31 : Nat) + 1 by decide, zpow_add₀ (by norm_num), zpow_one]
          exact mul_lt_mul_of_pos_left (by norm_num) (by positivity)

/-- A decimal that rounds to a double is read as it. -/
theorem ofDecimal_of_rounds {digits : Nat} {e : Int} (hfinite : x.isFinite = true)
    (hzero : x.isZero = false)
    (hdigits : 0 < digits) (h : Rounds x (digits * 10 ^ e)) :
      ofDecimal x.isNegative digits e = x := by
  obtain ⟨hsmall, hlarge⟩ := h.range hfinite hzero
  obtain ⟨hlow, hhigh⟩ := toDigits_bounds hdigits
  have hunit : (0 : ℚ) < 10 ^ e := by positivity
  have hpow : ∀ a b : Int, (10 : ℚ) ^ a * 10 ^ b = 10 ^ (a + b) :=
    fun a b => (zpow_add₀ (by norm_num) a b).symm
  have hleast : -330 < ((Nat.toDigits 10 digits).length : Int) + e := by
    apply (zpow_lt_zpow_iff_right₀ (by norm_num : (1 : ℚ) < 10)).mp
    rw [← hpow]
    exact lt_of_le_of_lt hsmall (by gcongr)
  have hgreatest : ((Nat.toDigits 10 digits).length : Int) - 1 + e < 311 := by
    apply (zpow_lt_zpow_iff_right₀ (by norm_num : (1 : ℚ) < 10)).mp
    rw [← hpow]
    exact lt_of_le_of_lt (by gcongr) hlarge
  have hsize :
      ¬ ((digits = 0 || decide (((Nat.toDigits 10 digits).length : Int) + e < -330)) = true) := by
    simp only [Bool.or_eq_true, decide_eq_true_iff]
    omega
  simp only [ofDecimal]
  rw [if_neg hsize, if_neg (by omega)]
  split
  · rename_i he
    rw [zpow_ten_inv e he, ← div_eq_mul_inv] at h
    exact ofRatio_of_rounds hdigits (Nat.pow_pos (by decide)) hfinite h
  · rename_i he
    rw [zpow_ten_cast e (by omega), ← Nat.cast_mul] at h
    refine ofRatio_of_rounds (Nat.mul_pos hdigits (Nat.pow_pos (by decide))) (by decide) hfinite ?_
    rwa [Nat.cast_one, div_one]

end Scenarist.Binary64

import Scenarist.Proofs.Decimal.Rounding

/-! # The shortest decimal

The decimal chosen for a double lies where fractions round to it. Seventeen digits always suffice:
the grid of that many digits is finer than the interval is wide.
-/

namespace Scenarist

namespace Decimal

open Binary64

variable {x : Binary64}

def value (d : Decimal) : ℚ := d.digits * 10 ^ d.exponent

/-! ## The interval -/

theorem Interval.of_eq (x : Binary64) :
    ∃ num den : Nat, 0 < num ∧ 0 < den ∧ (num : ℚ) = 2 ^ (x.exponent - 2) * den ∧
      Interval.of x =
        ⟨(4 * x.mantissa - x.reach) * num, 4 * x.mantissa * num, (4 * x.mantissa + 2) * num, den,
        x.mantissa % 2 == 0⟩ := by
  obtain ⟨e, he⟩ : ∃ e, e = x.exponent - 2 := ⟨_, rfl⟩
  by_cases hneg : e < 0
  · refine ⟨1, Nat.pow 2 e.natAbs, by decide, Nat.pow_pos (by decide), ?_, ?_⟩
    · have hpow : ((Nat.pow 2 e.natAbs : Nat) : ℚ) = 2 ^ (-e) := by
        push_cast [Nat.pow_eq]
        rw [← zpow_natCast]
        congr 1
        omega
      rw [hpow, ← he, ← zpow_add₀ (by norm_num), add_neg_cancel, zpow_zero, Nat.cast_one]
    · simp only [Interval.of, ← he, if_pos hneg]
      rfl
  · refine ⟨Nat.pow 2 e.natAbs, 1, Nat.pow_pos (by decide), by decide, ?_, ?_⟩
    · push_cast [Nat.pow_eq]
      rw [← he, mul_one, ← zpow_natCast]
      congr 1
      omega
    · simp only [Interval.of, ← he, if_neg hneg]
      rfl

/-- The interval is tested on whole numbers: a fraction is compared with quarters of the unit. -/
theorem quarters {num den n d : Nat} (a : Nat) (hden : 0 < den) (hd : 0 < d)
    (hunit : (num : ℚ) = 2 ^ (x.exponent - 2) * den) :
    (a * num * d ≤ n * den ↔ (a / 4 : ℚ) ≤ n / d * 2 ^ (-x.exponent)) ∧
      (n * den ≤ a * num * d ↔ (n / d * 2 ^ (-x.exponent) : ℚ) ≤ a / 4) := by
  have hden' : (0 : ℚ) < den := by exact_mod_cast hden
  have hd' : (0 : ℚ) < d := by exact_mod_cast hd
  obtain ⟨w, hw⟩ : ∃ w : ℚ, w = n / d * 2 ^ (-x.exponent) := ⟨_, rfl⟩
  obtain ⟨u, hu⟩ : ∃ u : ℚ, u = 2 ^ (x.exponent - 2) * (den * d) := ⟨_, rfl⟩
  have hpos : 0 < u := by rw [hu]; positivity
  have hleft : ((a * num * d : Nat) : ℚ) = a * u := by
    push_cast
    rw [hunit, hu]
    ring
  have hright : ((n * den : Nat) : ℚ) = 4 * w * u := by
    have hfour : (4 : ℚ) * (2 ^ (-x.exponent) * 2 ^ (x.exponent - 2)) = 1 := by
      rw [← zpow_add₀ (by norm_num), show -x.exponent + (x.exponent - 2) = -2 by omega]
      norm_num
    push_cast
    rw [hw, hu]
    calc
      (n * den : ℚ) = n * den * (4 * (2 ^ (-x.exponent) * 2 ^ (x.exponent - 2))) := by
        rw [hfour, mul_one]
      _ = _ := by field_simp
  rw [← hw, ← Nat.cast_le (α := ℚ), ← Nat.cast_le (α := ℚ), hleft, hright,
    mul_le_mul_iff_left₀ hpos, mul_le_mul_iff_left₀ hpos]
  constructor <;> constructor <;> intro h <;> linarith

theorem Interval.holds_iff (hzero : x.isZero = false) {n d : Nat} (hd : 0 < d) :
    (Interval.of x).holds n d = true ↔ Rounds x (n / d) := by
  obtain ⟨num, den, -, hden, hunit, heq⟩ := Interval.of_eq x
  have hreach : x.reach ≤ 4 * x.mantissa := by
    have := mantissa_pos hzero
    rcases reach_cases x with ⟨h, -⟩ | ⟨h, -⟩ <;> omega
  have hlow : ((4 * x.mantissa - x.reach : Nat) / 4 : ℚ) = x.mantissa - x.reach / 4 := by
    push_cast [hreach]
    ring
  have hhigh : ((4 * x.mantissa + 2 : Nat) / 4 : ℚ) = x.mantissa + 1 / 2 := by
    push_cast
    ring
  obtain ⟨hlowLe, hlowGe⟩ := quarters (x := x) (n := n) (4 * x.mantissa - x.reach) hden hd hunit
  obtain ⟨hhighGe, hhighLe⟩ := quarters (x := x) (n := n) (4 * x.mantissa + 2) hden hd hunit
  rw [hlow] at hlowLe hlowGe
  rw [hhigh] at hhighLe hhighGe
  rw [heq, Interval.holds]
  by_cases heven : x.mantissa % 2 = 0
  · simp only [heven, beq_self_eq_true, if_true, Bool.and_eq_true, decide_eq_true_iff, hlowLe,
      hhighLe]
    exact ⟨fun h => ⟨h.1, h.2, fun _ => heven⟩, fun h => ⟨h.low, h.high⟩⟩
  · have hclosed : (x.mantissa % 2 == 0) = false := beq_false_of_ne heven
    simp only [hclosed, Bool.false_eq_true, if_false, Bool.and_eq_true, decide_eq_true_iff,
      ← not_le, hlowGe, hhighGe]
    constructor
    · rintro ⟨h1, h2⟩
      rw [not_le] at h1 h2
      exact ⟨h1.le, h2.le, fun h => by rcases h with h | h <;> linarith⟩
    · rintro ⟨h1, h2, htie⟩
      rw [not_le, not_le]
      exact ⟨lt_of_le_of_ne h1 fun h => heven (htie (.inl h.symm)),
        lt_of_le_of_ne h2 fun h => heven (htie (.inr h))⟩

/-! ## A grid -/

theorem power_ten (e : Int) :
    ∃ p q : Nat, (if e < 0 then ((1 : Nat), Nat.pow 10 e.natAbs) else (Nat.pow 10 e.natAbs, 1)) =
      (p, q) ∧
      0 < p ∧ 0 < q ∧ (p / q : ℚ) = 10 ^ e := by
  by_cases he : e < 0
  · refine ⟨1, Nat.pow 10 e.natAbs, if_pos he, by decide, Nat.pow_pos (by decide), ?_⟩
    rw [zpow_ten_inv e he, Nat.cast_one, one_div]
  · refine ⟨Nat.pow 10 e.natAbs, 1, if_neg he, Nat.pow_pos (by decide), by decide, ?_⟩
    rw [zpow_ten_cast e (by omega), Nat.cast_one, div_one]

theorem Interval.onGrid?_rounds (hzero : x.isZero = false) {power : Int} {d : Decimal}
    (h : (Interval.of x).onGrid? power = some d) : Rounds x d.value := by
  obtain ⟨p, q, hpair, hp, hq, hpower⟩ := power_ten power
  have hpoint : ∀ k : Nat, (Interval.of x).holds (k * p) q = true →
      Rounds x (Decimal.mk k power).value := by
    intro k hk
    have hrounds := (Interval.holds_iff hzero hq).mp hk
    rwa [Nat.cast_mul, mul_div_assoc, hpower] at hrounds
  simp only [Interval.onGrid?, hpair] at h
  split at h
  · rename_i hboth
    rw [Bool.and_eq_true] at hboth
    obtain rfl := Option.some.inj h
    split
    · exact hpoint _ hboth.2
    · exact hpoint _ hboth.1
  split at h
  · obtain rfl := Option.some.inj h
    exact hpoint _ (by assumption)
  split at h
  · obtain rfl := Option.some.inj h
    exact hpoint _ (by assumption)
  · exact absurd h (by simp)

/-- What lies below a double and does not round to it is at least as far as the interval. -/
theorem far_below {y : ℚ} (h : ¬ Rounds x y) (hle : y * 2 ^ (-x.exponent) ≤ x.mantissa) :
    y * 2 ^ (-x.exponent) ≤ (x.mantissa - x.reach / 4 : ℚ) := by
  by_contra hlt
  rw [not_le] at hlt
  refine h ⟨hlt.le, by linarith, ?_⟩
  rintro (h | h) <;> linarith

theorem far_above {y : ℚ} (h : ¬ Rounds x y) (hle : (x.mantissa : ℚ) ≤ y * 2 ^ (-x.exponent)) :
    (x.mantissa + 1 / 2 : ℚ) ≤ y * 2 ^ (-x.exponent) := by
  have hreach : (0 : ℚ) < x.reach := by
    rcases reach_cases x with ⟨h, -⟩ | ⟨h, -⟩ <;> rw [h] <;> norm_num
  by_contra hlt
  rw [not_le] at hlt
  refine h ⟨by linarith, hlt.le, ?_⟩
  rintro (h | h) <;> linarith

theorem Interval.value_eq (x : Binary64) :
    0 < (Interval.of x).unit ∧
      ((Interval.of x).value / (Interval.of x).unit : ℚ) = x.mantissa * 2 ^ x.exponent := by
  obtain ⟨num, den, -, hden, hunit, heq⟩ := Interval.of_eq x
  have hden' : (0 : ℚ) < den := by exact_mod_cast hden
  refine ⟨by rwa [heq], ?_⟩
  rw [heq]
  push_cast
  rw [hunit, show x.exponent - 2 = x.exponent + -2 by omega, zpow_add₀ (by norm_num)]
  field_simp
  norm_num [mul_comm]

/-- The step of a grid in the unit of the double. -/
def gridStep (x : Binary64) (power : Int) : ℚ := 10 ^ power * 2 ^ (-x.exponent)

theorem zpow_mul_neg (e : Int) : (2 : ℚ) ^ e * 2 ^ (-e) = 1 := by
  rw [← zpow_add₀ (by norm_num), add_neg_cancel, zpow_zero]

/-- With seventeen digits the step is smaller than the interval is wide. -/
theorem gridStep_lt {power : Int} (h : (10 : ℚ) ^ power * 10 ^ 16 ≤ x.mantissa * 2 ^ x.exponent) :
    gridStep x power < x.reach / 4 + 1 / 2 := by
  have hfine : gridStep x power * 10 ^ 16 ≤ x.mantissa := by
    have hscale : (0 : ℚ) < 2 ^ (-x.exponent) := by positivity
    calc
      gridStep x power * 10 ^ 16 = (10 : ℚ) ^ power * 10 ^ 16 * 2 ^ (-x.exponent) := by
        rw [gridStep]; ring
      _ ≤ (x.mantissa : ℚ) * 2 ^ x.exponent * 2 ^ (-x.exponent) := by gcongr
      _ = x.mantissa := by rw [mul_assoc, zpow_mul_neg, mul_one]
  rcases reach_cases x with ⟨hreach, hmantissa⟩ | ⟨hreach, -⟩
  · rw [hmantissa] at hfine
    rw [hreach]
    norm_num at hfine ⊢
    linarith
  · have : (x.mantissa : ℚ) ≤ 0x20000000000000 := by exact_mod_cast (mantissa_lt x).le
    rw [hreach]
    norm_num at hfine ⊢
    linarith

section

variable {power : Int} {p q : Nat}

theorem gridStep_mul (hpower : (p / q : ℚ) = 10 ^ power) (k : Nat) :
    ((k * p : Nat) / q : ℚ) * 2 ^ (-x.exponent) = k * gridStep x power := by
  rw [Nat.cast_mul, mul_div_assoc, hpower, gridStep, mul_assoc]

theorem gridStep_bounds (hp : 0 < p) (hq : 0 < q) (hpower : (p / q : ℚ) = 10 ^ power) {floor : Nat}
    (hfloor : floor = (Interval.of x).value * q / ((Interval.of x).unit * p)) :
    floor * gridStep x power ≤ x.mantissa ∧
      (x.mantissa : ℚ) ≤ (floor + 1 : Nat) * gridStep x power := by
  obtain ⟨hunit, hvalue⟩ := Interval.value_eq x
  have hstep : 0 ≤ gridStep x power := by rw [gridStep]; positivity
  have hpos : (0 : ℚ) < ((Interval.of x).unit * p : Nat) := by exact_mod_cast Nat.mul_pos hunit hp
  have hquotient :
      (((Interval.of x).value * q : Nat) / ((Interval.of x).unit * p : Nat) : ℚ) *
          gridStep x power = x.mantissa := by
    have hp' : (0 : ℚ) < p := by exact_mod_cast hp
    have hq' : (0 : ℚ) < q := by exact_mod_cast hq
    have hunit' : (0 : ℚ) < (Interval.of x).unit := by exact_mod_cast hunit
    have hvalue' :
        ((Interval.of x).value : ℚ) = x.mantissa * 2 ^ x.exponent * (Interval.of x).unit := by
      rw [← hvalue]
      field_simp
    push_cast
    rw [gridStep, ← hpower, hvalue']
    field_simp
    rw [mul_assoc, zpow_mul_neg, mul_one]
  rw [← hquotient, hfloor]
  constructor
  · gcongr
    rw [le_div_iff₀ hpos]
    exact_mod_cast Nat.div_mul_le_self _ _
  · gcongr
    rw [div_le_iff₀ hpos]
    exact_mod_cast (Nat.lt_mul_of_div_lt (Nat.lt_succ_self _) (Nat.mul_pos hunit hp)).le

theorem Interval.not_holds_of_onGrid? {i : Interval}
    (hpair : (if power < 0 then ((1 : Nat), Nat.pow 10 power.natAbs)
      else (Nat.pow 10 power.natAbs, 1)) = (p, q))
    (h : i.onGrid? power = none) {floor : Nat} (hfloor : floor = i.value * q / (i.unit * p)) :
    i.holds (floor * p) q = false ∧ i.holds ((floor + 1) * p) q = false := by
  simp only [Interval.onGrid?, hpair, ← hfloor] at h
  split at h
  · exact absurd h (by simp)
  split at h
  · exact absurd h (by simp)
  split at h
  · exact absurd h (by simp)
  · exact ⟨Bool.eq_false_iff.mpr (by assumption), Bool.eq_false_iff.mpr (by assumption)⟩

end

theorem Interval.onGrid?_ne_none (hzero : x.isZero = false) {power : Int}
    (h : (10 : ℚ) ^ power * 10 ^ 16 ≤ x.mantissa * 2 ^ x.exponent) :
      (Interval.of x).onGrid? power ≠ none := by
  intro hnone
  obtain ⟨p, q, hpair, hp, hq, hpower⟩ := power_ten power
  obtain ⟨floor, hfloor⟩ : ∃ k, k = (Interval.of x).value * q / ((Interval.of x).unit * p) :=
    ⟨_, rfl⟩
  obtain ⟨hbelow, habove⟩ := Interval.not_holds_of_onGrid? hpair hnone hfloor
  obtain ⟨hle, hge⟩ := gridStep_bounds hp hq hpower hfloor
  rw [Bool.eq_false_iff, ne_eq, Interval.holds_iff hzero hq] at hbelow habove
  -- With neither point in it the interval would fit between the two.
  have hlow := far_below hbelow (by rw [gridStep_mul hpower]; exact hle)
  have hhigh := far_above habove (by rw [gridStep_mul hpower]; exact hge)
  rw [gridStep_mul hpower] at hlow hhigh
  push_cast at hhigh
  linarith [gridStep_lt h]

/-! ## The search -/

theorem leadingPower_le {num den : Nat} (hnum : 0 < num) (hden : 0 < den) :
    (10 : ℚ) ^ leadingPower num den ≤ num / den := by
  obtain ⟨guess, hguess⟩ :
      ∃ g : Int, g = (Nat.toDigits 10 num).length - (Nat.toDigits 10 den).length := ⟨_, rfl⟩
  obtain ⟨p, q, hpair, hp, hq, hpower⟩ := power_ten guess
  have hden' : (0 : ℚ) < den := by exact_mod_cast hden
  have hq' : (0 : ℚ) < q := by exact_mod_cast hq
  simp only [leadingPower, ← hguess, hpair]
  split
  · rename_i hle
    rw [← hpower, div_le_div_iff₀ hq' hden']
    exact_mod_cast hle
  · obtain ⟨hnumLow, -⟩ := toDigits_bounds hnum
    obtain ⟨-, hdenHigh⟩ := toDigits_bounds hden
    rw [le_div_iff₀ hden']
    calc (10 : ℚ) ^ (guess - 1) * den ≤
      10 ^ (guess - 1) * 10 ^ ((Nat.toDigits 10 den).length : Int) := by gcongr
      _ = 10 ^ (((Nat.toDigits 10 num).length : Int) - 1) := by
        rw [← zpow_add₀ (by norm_num)]
        congr 1
        omega
      _ ≤ num := hnumLow

theorem Interval.search_rounds (hzero : x.isZero = false) {top : Int}
    (htop : (10 : ℚ) ^ top ≤ x.mantissa * 2 ^ x.exponent) (n : Nat) :
    Rounds x ((Interval.of x).search top n).value := by
  induction n with
  | zero =>
    have hstep : (10 : ℚ) ^ (top - 16) * 10 ^ 16 = 10 ^ top := by
      rw [← zpow_natCast, ← zpow_add₀ (by norm_num)]
      congr 1
      omega
    have hsome : (Interval.of x).onGrid? (top - 16) ≠ none :=
      Interval.onGrid?_ne_none hzero (by rwa [hstep])
    obtain ⟨d, hd⟩ := Option.ne_none_iff_exists'.mp hsome
    rw [Interval.search, hd]
    exact Interval.onGrid?_rounds hzero hd
  | succ n ih =>
    rw [Interval.search]
    cases hd : (Interval.of x).onGrid? (top - (16 - (n + 1) : Int)) with
    | none => exact ih
    | some d => exact Interval.onGrid?_rounds hzero hd

theorem normalize_value (n : Nat) (d : Decimal) : (normalize n d).value = d.value := by
  induction n generalizing d with
  | zero => rfl
  | succ n ih =>
    rw [normalize]
    split
    · rename_i hmod
      rw [ih, value, value, zpow_add₀ (by norm_num), zpow_one]
      have hdigits : (d.digits : ℚ) = (d.digits / 10 : Nat) * 10 := by
        exact_mod_cast (Nat.div_mul_cancel (Nat.dvd_of_mod_eq_zero hmod)).symm
      rw [hdigits]
      ring
    · rfl

/-- The decimal of a double rounds to it. -/
theorem shortest_rounds (hzero : x.isZero = false) : Rounds x (shortest x).value := by
  obtain ⟨hunit, hvalue⟩ := Interval.value_eq x
  have hpos : 0 < (Interval.of x).value := by
    have hunit' : (0 : ℚ) < (Interval.of x).unit := by exact_mod_cast hunit
    have hmantissa : (0 : ℚ) < x.mantissa := by exact_mod_cast mantissa_pos hzero
    have : (0 : ℚ) < (Interval.of x).value / (Interval.of x).unit := by rw [hvalue]; positivity
    exact_mod_cast (div_pos_iff_of_pos_right hunit').mp this
  have htop := leadingPower_le hpos hunit
  rw [hvalue] at htop
  simp only [shortest, hzero, Bool.false_eq_true, if_false, normalize_value]
  exact Interval.search_rounds hzero htop 16

theorem shortest_digits (hfinite : x.isFinite = true) :
    (shortest x).digits = 0 ↔ x.isZero = true := by
  constructor
  · intro hdigits
    by_contra hzero
    rw [Bool.not_eq_true] at hzero
    have hrange := ((shortest_rounds hzero).range hfinite hzero).1
    rw [value, hdigits, Nat.cast_zero, zero_mul] at hrange
    exact absurd hrange (not_le.mpr (by positivity))
  · intro hzero
    rw [shortest, if_pos hzero]

theorem ofDecimal_of_value (hfinite : x.isFinite = true) {digits : Nat} {e : Int}
    (h : digits * 10 ^ e = (shortest x).value) : ofDecimal x.isNegative digits e = x := by
  cases hzero : x.isZero with
  | true =>
    have hdigits : digits = 0 := by
      rw [value, (shortest_digits hfinite).mpr hzero, Nat.cast_zero, zero_mul] at h
      exact_mod_cast (mul_eq_zero.mp h).resolve_right (by positivity)
    have hbits : x.exponentField = 0 ∧ x.fraction = 0 := by simpa [isZero] using hzero
    have hmantissa : x.mantissa = 0 := by rw [mantissa, if_pos hbits.1, hbits.2]
    have hexponent : x.exponent = -1074 := by rw [Binary64.exponent, hbits.1]; rfl
    have hsigned := signed_bits x
    rw [hmantissa, hexponent] at hsigned
    subst hdigits
    exact hsigned
  | false =>
    have hrounds := shortest_rounds hzero
    rw [← h] at hrounds
    refine ofDecimal_of_rounds hfinite hzero ?_ hrounds
    by_contra hdigits
    obtain rfl : digits = 0 := by omega
    have hrange := (hrounds.range hfinite hzero).1
    rw [Nat.cast_zero, zero_mul] at hrange
    exact absurd hrange (not_le.mpr (by positivity))

end Decimal

end Scenarist

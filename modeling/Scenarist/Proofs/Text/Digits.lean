import Scenarist.Text.Basic

/-! # Letters and digits

No letter or digit is a blank, so nothing is trimmed from a number. It is read back from the
digits that are written for it.
-/

namespace Scenarist.Text

section

variable {c d : Char}

theorem alphanum_range (h : c.isAlphanum = true) :
    (48 ≤ c.toNat ∧ c.toNat ≤ 57) ∨ (65 ≤ c.toNat ∧ c.toNat ≤ 90) ∨
      (97 ≤ c.toNat ∧ c.toNat ≤ 122) := by
  unfold Char.isAlphanum Char.isAlpha Char.isUpper Char.isLower Char.isDigit at h
  simp only [Bool.or_eq_true, Bool.and_eq_true, decide_eq_true_eq, UInt32.le_iff_toNat_le] at h
  change _ ∨ (_ ≤ c.toNat ∧ c.toNat ≤ _) at h
  rcases h with (h | h) | h
  · exact .inr (.inl h)
  · exact .inr (.inr h)
  · exact .inl h

theorem isDigit_letter (h : c.isAlpha = true) : c.isDigit = false := by
  unfold Char.isAlpha Char.isUpper Char.isLower at h
  unfold Char.isDigit
  simp only [Bool.or_eq_true, Bool.and_eq_true, decide_eq_true_eq, UInt32.le_iff_toNat_le] at h
  simp only [Bool.and_eq_false_iff, decide_eq_false_iff_not, UInt32.le_iff_toNat_le]
  simp at h ⊢
  omega

theorem ne_of_alphanum (h : c.isAlphanum = true) (hd : d.isAlphanum = false) : c ≠ d := by
  rintro rfl
  simp [h] at hd

theorem isBlank_alphanum (h : c.isAlphanum = true) : isBlank c = false := by
  have hrange := alphanum_range h
  simp [isBlank]
  omega

end

/-! ## One digit -/

theorem digitOf?_digitChar (base d : Nat) (hb : base ≤ 16) (h : d < base) :
    digitOf? base (Nat.digitChar d) = some d := by
  have all : ∀ d < 16, digitValue? (Nat.digitChar d) = some d := by decide
  rw [digitOf?, all d (by omega)]
  simp [h]

theorem isBlank_digit (c : Char) (h : c.isDigit = true) : isBlank c = false :=
  isBlank_alphanum (by simp [Char.isAlphanum, h])

/-! ## Natural numbers -/

theorem mem_toDigits {base n : Nat} {c : Char} (hbase : 1 < base) (h : c ∈ Nat.toDigits base n) :
    ∃ d < base, c = Nat.digitChar d := by
  induction n using Nat.strongRecOn with
  | ind n ih =>
    rw [Nat.toDigits_eq_if hbase] at h
    split at h
    · rename_i hn
      exact ⟨n, hn, List.mem_singleton.mp h⟩
    · rename_i hn
      rcases List.mem_append.mp h with h | h
      · exact ih _ (Nat.div_lt_self (by omega) hbase) h
      · exact ⟨n % base, Nat.mod_lt _ (by omega), List.mem_singleton.mp h⟩

theorem digitsValue?_append_one (base : Nat) (t : Text) (c : Char) :
    digitsValue? base (t ++ [c]) =
      (digitsValue? base t).bind fun n => (digitOf? base c).map (n * base + ·) := by
  simp [digitsValue?, List.foldl_append]

theorem digitsValue?_toDigits (base n : Nat) (h1 : 1 < base) (hb : base ≤ 16) :
    digitsValue? base (Nat.toDigits base n) = some n := by
  induction n using Nat.strongRecOn with
  | ind n ih =>
    rw [Nat.toDigits_eq_if h1]
    split
    · rename_i hn
      rw [← List.nil_append [n.digitChar], digitsValue?_append_one, digitOf?_digitChar _ _ hb hn]
      simp [digitsValue?]
    · rename_i hn
      have hlt : n / base < n := Nat.div_lt_self (by omega) h1
      rw [digitsValue?_append_one, ih _ hlt, digitOf?_digitChar _ _ hb (Nat.mod_lt _ (by omega))]
      simp [Nat.div_add_mod']

theorem toNat?_of_digits (base : Nat) (t : Text) (h : t ≠ []) :
    toNat? base t = digitsValue? base t := by
  cases t with
  | nil => exact absurd rfl h
  | cons c r => rfl

theorem ofNat_ne_nil (n : Nat) : ofNat n ≠ [] := Nat.toDigits_ne_nil

theorem isDigit_of_mem_ofNat {n : Nat} {c : Char} (h : c ∈ ofNat n) : c.isDigit = true :=
  Nat.isDigit_of_mem_toDigits (by decide) (by decide) h

theorem toNat?_ofNat (n : Nat) : toNat? 10 (ofNat n) = some n := by
  rw [toNat?_of_digits _ _ (ofNat_ne_nil n)]
  exact digitsValue?_toDigits 10 n (by decide) (by decide)

theorem ofNat_eq_cons (n : Nat) : ∃ c r, ofNat n = c :: r ∧ c.isDigit = true := by
  obtain ⟨c, r, h⟩ := List.exists_cons_of_ne_nil (ofNat_ne_nil n)
  exact ⟨c, r, h, isDigit_of_mem_ofNat (h ▸ List.mem_cons_self)⟩

theorem head?_ofNat {n : Nat} (h : 0 < n) : (ofNat n).head? ≠ some '0' := by
  have digits : ∀ d < 10, 0 < d → Nat.digitChar d ≠ '0' := by decide
  induction n using Nat.strongRecOn with
  | ind n ih =>
    rw [ofNat, Nat.toDigits_eq_if (by decide)]
    split
    · rename_i hlt
      rw [List.head?_cons, Ne, Option.some_inj]
      exact digits n hlt h
    · rename_i hge
      have hrest := ih (n / 10) (Nat.div_lt_self h (by decide)) (by omega)
      obtain ⟨c, r, heq⟩ := List.exists_cons_of_ne_nil (ofNat_ne_nil (n / 10))
      rw [heq] at hrest
      rw [← ofNat, heq]
      exact hrest

theorem ofNat_ne_zero_cons (n : Nat) (d : Char) (r : Text) : ofNat n ≠ '0' :: d :: r := by
  intro h
  rcases Nat.eq_zero_or_pos n with rfl | hpos
  · exact absurd (congrArg List.length h) (by simp [ofNat])
  · exact head?_ofNat hpos (by rw [h]; rfl)

theorem toUnsigned?_ofNat (n : Nat) : toUnsigned? 10 (ofNat n) = some n := by
  obtain ⟨c, r, h, hc⟩ := ofNat_eq_cons n
  have hplus : c ≠ '+' := by rintro rfl; simp at hc
  rw [← toNat?_ofNat n, h, toUnsigned?]
  rintro t ⟨⟩
  exact hplus rfl

/-! ## Integers -/

theorem toInt?_ofInt (n : Int) : toInt? 10 (ofInt n) = some n := by
  cases n with
  | ofNat n =>
    obtain ⟨c, r, h, hc⟩ := ofNat_eq_cons n
    have hminus : c ≠ '-' := by rintro rfl; simp at hc
    have hplus : c ≠ '+' := by rintro rfl; simp at hc
    have hread := toNat?_ofNat n
    simp only [ofInt, h] at hread ⊢
    rw [toInt?, hread]
    · rfl
    · rintro t ⟨⟩; exact hminus rfl
    · rintro t ⟨⟩; exact hplus rfl
  | negSucc n =>
    rw [ofInt, toInt?, toNat?_ofNat]
    rfl

end Scenarist.Text

import Scenarist.Decimal.Notation
import Scenarist.Decimal.Reading
import Scenarist.Proofs.Decimal.Shortest
import Scenarist.Proofs.Text.Digits
import Scenarist.Proofs.Text.Pieces

/-! # Numbers read back

A finite double is read from the text that is written for it. Where the point stands and how many
zeros are filled in do not matter to the value of the digits.
-/

namespace Scenarist

/-! ## Digits with zeros around them -/

theorem Text.digitsValue?_zeros_append (n : Nat) (t : Text) :
    digitsValue? 10 (repeated n '0' ++ t) = digitsValue? 10 t := by
  have hzeros : digitsValue? 10 (repeated n '0') = some 0 := by
    induction n with
    | zero => rfl
    | succ n ih =>
      rw [repeated, List.replicate_succ', digitsValue?_append_one, ← repeated, ih]
      rfl
  unfold digitsValue? at hzeros ⊢
  rw [List.foldl_append, hzeros]

theorem Text.digitsValue?_append_zeros (n : Nat) {t : Text} {k : Nat}
    (h : digitsValue? 10 t = some k) :
    digitsValue? 10 (t ++ repeated n '0') = some (k * 10 ^ n) := by
  induction n with
  | zero => simpa [repeated] using h
  | succ n ih =>
    rw [repeated, List.replicate_succ', ← List.append_assoc, digitsValue?_append_one, ← repeated,
      ih]
    simp [digitOf?, digitValue?, Nat.pow_succ, Nat.mul_assoc]

theorem Text.digitsValue?_eq_none {t : Text} {c : Char} (hc : digitOf? 10 c = none) (h : c ∈ t) :
    digitsValue? 10 t = none := by
  obtain ⟨a, b, rfl⟩ := List.append_of_mem h
  rw [← List.singleton_append, ← List.append_assoc, digitsValue?, List.foldl_append, ← digitsValue?,
    digitsValue?_append_one, hc]
  have hnone : ∀ u : Text,
      u.foldl (fun acc c => acc.bind fun n => (digitOf? 10 c).map (n * 10 + ·)) none = none := by
    intro u
    induction u with
    | nil => rfl
    | cons d r ih => exact ih
  simp [hnone]

namespace Decimal

/-! ## The parts of a notation -/

theorem exponentPart?_ofInt (n : Int) : exponentPart? ('e' :: Text.ofInt n) = some n := by
  rw [exponentPart?, if_pos (.inl rfl), Text.toInt?_ofInt]

theorem magnitude?_point (negative : Bool) (whole fraction : Text) {rest : Text} {digits : Nat}
    {e : Int}
    (hwhole : ∀ c ∈ whole, c.isDigit = true) (hfraction : ∀ c ∈ fraction, c.isDigit = true)
    (hrest : ∀ c ∈ rest.head?, c.isDigit = false)
    (hdigits : Text.toNat? 10 (whole ++ fraction) = some digits)
    (he : exponentPart? rest = some e) :
    magnitude? negative (whole ++ '.' :: (fraction ++ rest)) =
      some (.ofDecimal negative digits (e - fraction.length)) := by
  have hpoint : ∀ c ∈ ('.' :: (fraction ++ rest)).head?, c.isDigit = false := by simp
  obtain ⟨htake, hdrop⟩ := Text.takeWhile_append hwhole hpoint
  obtain ⟨htake', hdrop'⟩ := Text.takeWhile_append hfraction hrest
  simp only [magnitude?, htake, hdrop, htake', hdrop', hdigits, he]

theorem magnitude?_whole {negative : Bool} {whole rest : Text} {digits : Nat} {e : Int}
    (hwhole : ∀ c ∈ whole, c.isDigit = true) (hrest : ∀ c ∈ rest.head?, c.isDigit = false ∧ c ≠ '.')
    (hdigits : Text.toNat? 10 whole = some digits) (he : exponentPart? rest = some e) :
    magnitude? negative (whole ++ rest) = some (.ofDecimal negative digits e) := by
  obtain ⟨htake, hdrop⟩ := Text.takeWhile_append hwhole fun c hc => (hrest c hc).1
  unfold magnitude?
  simp only [htake, hdrop]
  cases rest with
  | nil => simp [hdigits, he]
  | cons c r =>
    have hpoint := (hrest c rfl).2
    simp [hpoint, hdigits, he]

/-! ## A decimal -/

variable {x : Binary64}

theorem digits_of_mem_repeated {n : Nat} {c : Char} (h : c ∈ Text.repeated n '0') :
    c.isDigit = true := by
  rw [List.eq_of_mem_replicate h]
  rfl

theorem toNat?_append {a b : Text} (ha : a ≠ []) :
    Text.toNat? 10 (a ++ b) = Text.digitsValue? 10 (a ++ b) :=
  Text.toNat?_of_digits 10 _ (by simp [ha])

theorem positional_spec (d : Decimal) :
    (∀ c ∈ (positional d).1, c.isDigit = true) ∧ (∀ c ∈ (positional d).2, c.isDigit = true) ∧
      (positional d).1 ≠ [] ∧
      ∃ digits : Nat, Text.digitsValue? 10 ((positional d).1 ++ (positional d).2) = some digits ∧
        (digits * 10 ^ (-(positional d).2.length : Int) : ℚ) = d.value := by
  have hmem : ∀ c ∈ Text.ofNat d.digits, c.isDigit = true :=
    fun c hc => Text.isDigit_of_mem_ofNat hc
  have hread : Text.digitsValue? 10 (Text.ofNat d.digits) = some d.digits :=
    Text.digitsValue?_toDigits 10 d.digits (by decide) (by decide)
  simp only [positional]
  split
  · rename_i hexponent
    refine ⟨?_, by simp, by simp [Text.ofNat_ne_nil], d.digits * 10 ^ d.exponent.natAbs, ?_, ?_⟩
    · intro c hc
      rcases List.mem_append.mp hc with hc | hc
      · exact hmem c hc
      · exact digits_of_mem_repeated hc
    · rw [List.append_nil, Text.digitsValue?_append_zeros _ hread]
    · rw [value, Binary64.zpow_ten_cast d.exponent hexponent]
      simp
  split
  · rename_i hexponent hlength
    refine ⟨fun c hc => hmem c (List.mem_of_mem_take hc), fun c hc =>
      hmem c (List.mem_of_mem_drop hc), ?_, d.digits, ?_, ?_⟩
    · intro hnil
      have hlen := congrArg List.length hnil
      simp only [List.length_take, List.length_nil] at hlen
      omega
    · rw [List.take_append_drop, hread]
    · rw [value, List.length_drop]
      congr 2
      omega
  · rename_i hexponent hlength
    refine ⟨by simp, ?_, by simp, d.digits, ?_, ?_⟩
    · intro c hc
      rcases List.mem_append.mp hc with hc | hc
      · exact digits_of_mem_repeated hc
      · exact hmem c hc
    · have hzeros :=
        Text.digitsValue?_zeros_append (d.exponent.natAbs - (Text.ofNat d.digits).length + 1)
        (Text.ofNat d.digits)
      rw [Text.repeated, List.replicate_succ] at hzeros
      exact hzeros.trans hread
    · rw [value, List.length_append, Text.repeated, List.length_replicate]
      congr 2
      omega

theorem magnitude?_positional (hfinite : x.isFinite = true) :
    magnitude? x.isNegative ((positional (shortest x)).1 ++ '.' ::
      (if (positional (shortest x)).2 = [] then "0".toList else (positional (shortest x)).2)) =
        some x := by
  obtain ⟨hwhole, hfraction, hne, digits, hread, hvalue⟩ := positional_spec (shortest x)
  split
  · rename_i hnil
    rw [hnil, List.append_nil] at hread
    have hdigits := Text.digitsValue?_append_zeros 1 hread
    have hzero : "0".toList = Text.repeated 1 '0' ++ [] := rfl
    rw [hzero, magnitude?_point _ _ _ hwhole (fun c => digits_of_mem_repeated) (by simp)
      ((toNat?_append hne).trans hdigits) rfl]
    refine congrArg some (ofDecimal_of_value hfinite ?_)
    rw [← hvalue, hnil, Text.repeated, List.length_replicate]
    norm_num
    linarith
  · rw [← List.append_nil (positional (shortest x)).2,
      magnitude?_point _ _ _ hwhole hfraction (by simp)
      ((toNat?_append hne).trans hread) rfl]
    refine congrArg some (ofDecimal_of_value hfinite ?_)
    rw [← hvalue, zero_sub]

theorem magnitude?_scientific (hfinite : x.isFinite = true) :
    magnitude? x.isNegative (scientific (shortest x)) = some x := by
  obtain ⟨d, hd⟩ : ∃ d, d = shortest x := ⟨_, rfl⟩
  obtain ⟨c, r, heq, -⟩ := Text.ofNat_eq_cons d.digits
  have hmem : ∀ c ∈ Text.ofNat d.digits, c.isDigit = true :=
    fun c hc => Text.isDigit_of_mem_ofNat hc
  have hread := Text.toNat?_ofNat d.digits
  rw [← hd]
  simp only [scientific]
  rw [heq] at hmem hread ⊢
  cases r with
  | nil =>
    simp only [List.take_one, List.head?_cons, Option.toList_some, List.length_singleton, if_pos,
      List.append_nil]
    rw [magnitude?_whole hmem (by simp) hread (exponentPart?_ofInt _)]
    refine congrArg some (ofDecimal_of_value hfinite ?_)
    rw [← hd, value]
    simp
  | cons c' r =>
    have hlength : (c :: c' :: r).length ≠ 1 := by simp
    rw [if_neg hlength]
    have hpoint := magnitude?_point x.isNegative [c] (c' :: r)
      (fun c hc => hmem c (by simp_all)) (fun c hc => hmem c (by simp_all)) (by simp) hread
      (exponentPart?_ofInt (d.exponent + ((c :: c' :: r).length - 1 : Nat)))
    refine hpoint.trans (congrArg some (ofDecimal_of_value hfinite ?_))
    rw [← hd, value]
    congr 2
    simp only [List.length_cons]
    omega

theorem magnitude?_fractional (hfinite : x.isFinite = true) :
    magnitude? x.isNegative (fractionalMagnitude x) = some x := by
  simp only [fractionalMagnitude]
  split
  · rename_i hdigits
    refine Eq.trans (b := some (Binary64.ofDecimal x.isNegative 0 (-1))) ?_
      (congrArg some (ofDecimal_of_value hfinite ?_))
    · cases x.isNegative <;> rfl
    · rw [value, hdigits, Nat.cast_zero, zero_mul, zero_mul]
  split
  · exact magnitude?_positional hfinite
  · exact magnitude?_scientific hfinite

/-! ## The whole notation -/

theorem fractionalMagnitude_start (x : Binary64) :
    ∃ c r m, fractionalMagnitude x = c :: r ∧ c.isDigit = true ∧ m ∈ r ∧ (m = '.' ∨ m = 'e') := by
  have hmem : ∀ c ∈ Text.ofNat (shortest x).digits, c.isDigit = true :=
    fun c hc => Text.isDigit_of_mem_ofNat hc
  obtain ⟨hwhole, -, hne, -⟩ := positional_spec (shortest x)
  simp only [fractionalMagnitude]
  split
  · exact ⟨'0', ".0".toList, '.', rfl, rfl, by simp, .inl rfl⟩
  split
  · obtain ⟨c, r, heq⟩ := List.exists_cons_of_ne_nil hne
    rw [heq] at hwhole ⊢
    exact ⟨c, _, '.', rfl, hwhole c (by simp), by simp, .inl rfl⟩
  · obtain ⟨c, r, heq, hc⟩ := Text.ofNat_eq_cons (shortest x).digits
    simp only [scientific, heq]
    exact ⟨c, _, 'e', rfl, hc, by simp, .inr rfl⟩

theorem fractionalMagnitude_mem {c : Char} (h : c ∈ fractionalMagnitude x) :
    c.isDigit = true ∨ c = '.' ∨ c = 'e' ∨ c = '-' := by
  have hmem : ∀ c ∈ Text.ofNat (shortest x).digits, c.isDigit = true :=
    fun c hc => Text.isDigit_of_mem_ofNat hc
  obtain ⟨hwhole, hfraction, -, -⟩ := positional_spec (shortest x)
  simp only [fractionalMagnitude] at h
  split at h
  · simp only [String.reduceToList, List.mem_cons, List.not_mem_nil, or_false] at h
    rcases h with rfl | rfl | rfl <;> simp
  split at h
  · rcases List.mem_append.mp h with h | h
    · exact .inl (hwhole c h)
    rcases List.mem_cons.mp h with h | h
    · exact .inr (.inl h)
    split at h
    · exact .inl (digits_of_mem_repeated (n := 1) h)
    · exact .inl (hfraction c h)
  · simp only [scientific, List.append_assoc, List.mem_append, List.mem_cons] at h
    rcases h with h | h | h | h
    · exact .inl (hmem c (List.mem_of_mem_take h))
    · split at h
      · exact absurd h (by simp)
      · rcases List.mem_cons.mp h with h | h
        · exact .inr (.inl h)
        · exact .inl (hmem c (List.mem_of_mem_drop h))
    · exact .inr (.inr (.inl h))
    · generalize (shortest x).exponent + ((Text.ofNat (shortest x).digits).length - 1 : Nat) =
        power at h
      cases power with
      | ofNat n => exact .inl (Text.isDigit_of_mem_ofNat h)
      | negSucc n =>
        rcases List.mem_cons.mp h with h | h
        · exact .inr (.inr (.inr h))
        · exact .inl (Text.isDigit_of_mem_ofNat h)

theorem unsigned?_digit {negative : Bool} {c : Char} {r : Text} (hc : c.isDigit = true) :
    unsigned? negative (c :: r) = magnitude? negative (c :: r) := by
  have hlower : c.toLower = c := by
    simp only [Char.isDigit, Bool.and_eq_true, decide_eq_true_eq] at hc
    refine dif_neg fun hupper => ?_
    have hle : 'A'.val ≤ '9'.val := UInt32.le_trans hupper.1 hc.2
    exact absurd hle (by decide)
  have hword : ∀ w : Text, (∀ d ∈ w.head?, d.isDigit = false) → w ≠ [] →
      Text.toAsciiLower (c :: r) ≠ w := by
    rintro w hw - rfl
    have := hw c (by simp [Text.toAsciiLower, hlower])
    simp [hc] at this
  simp only [unsigned?]
  rw [if_neg, if_neg]
  · exact hword _ (by simp) (by simp)
  · rintro (h | h)
    · exact hword _ (by simp) (by simp) h
    · exact hword _ (by simp) (by simp) h

theorem read?_fractional (hfinite : x.isFinite = true) : read? (fractional x) = some x := by
  obtain ⟨c, r, -, heq, hc, -⟩ := fractionalMagnitude_start x
  have hread : unsigned? x.isNegative (fractionalMagnitude x) = some x := by
    rw [← magnitude?_fractional hfinite, heq, unsigned?_digit hc]
  cases hsign : x.isNegative with
  | true =>
    rw [hsign] at hread
    simpa [fractional, sign, hsign, read?] using hread
  | false =>
    rw [hsign] at hread
    have hminus : c ≠ '-' := by rintro rfl; simp at hc
    have hplus : c ≠ '+' := by rintro rfl; simp at hc
    rw [fractional, sign, hsign, if_neg Bool.false_ne_true]
    simp only [String.toList_empty, List.nil_append]
    rw [← hread, heq]
    unfold read?
    split
    · simp_all
    · simp_all
    · rfl

end Decimal

end Scenarist

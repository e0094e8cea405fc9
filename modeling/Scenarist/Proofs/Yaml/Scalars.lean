import Scenarist.Proofs.Decimal.Reading
import Scenarist.Yaml.Scalar

/-! # Plain scalars read back

The words for booleans and numbers have the values that they are written for.
-/

namespace Scenarist.Yaml.Scalar

/-! ## Natural numbers -/

theorem based?_eq_none {t : Text} (h : ∀ c ∈ t, c ≠ 'x' ∧ c ≠ 'o' ∧ c ≠ 'b') : based? t = none := by
  unfold based?
  split
  · exact absurd rfl (h 'x' (by simp)).1
  · exact absurd rfl (h 'o' (by simp)).2.1
  · exact absurd rfl (h 'b' (by simp)).2.2
  · rfl

theorem based?_digits {t : Text} (h : ∀ c ∈ t, c.isDigit = true) : based? t = none := by
  refine based?_eq_none fun c hc => ?_
  have hdigit := h c hc
  refine ⟨?_, ?_, ?_⟩ <;> (rintro rfl; exact absurd hdigit (by decide))

theorem isPaddedNumber_eq_false {t : Text} (hstart : ∀ c ∈ t.head?, c.isDigit = true)
    (h : ∀ d r, t = '0' :: d :: r → (d :: r).all Char.isDigit = false) :
    isPaddedNumber t = false ∧ isPaddedNumber ('-' :: t) = false := by
  cases t with
  | nil => exact ⟨rfl, rfl⟩
  | cons c r =>
    have hc := hstart c rfl
    by_cases hzero : ∃ d u, c :: r = '0' :: d :: u
    · obtain ⟨d, u, heq⟩ := hzero
      rw [heq]
      exact ⟨h d u heq, h d u heq⟩
    · constructor <;> unfold isPaddedNumber <;> dsimp only <;> split
      · rename_i heq
        split at heq
        · rename_i hminus
          rw [(List.cons.inj hminus).1] at hc
          exact absurd hc (by decide)
        · rename_i hplus
          rw [(List.cons.inj hplus).1] at hc
          exact absurd hc (by decide)
        · exact absurd ⟨_, _, heq⟩ hzero
      · rfl
      · rename_i heq
        exact absurd ⟨_, _, heq⟩ hzero
      · rfl

theorem natural?_digit {c : Char} {r : Text} (hc : c.isDigit = true)
    (hbase : based? (c :: r) = none)
    (hpadded : isPaddedNumber (c :: r) = false) : natural? (c :: r) = Text.toNat? 10 (c :: r) := by
  have hplus : c ≠ '+' := by rintro rfl; simp at hc
  unfold natural?
  split
  · rename_i h
    exact absurd (List.cons.inj h).1 hplus
  · simp only [hbase, hpadded, Bool.false_eq_true, if_false]

theorem natural?_minus {t : Text} (hpadded : isPaddedNumber ('-' :: t) = false) :
    natural? ('-' :: t) = none := by
  have hread : Text.toNat? 10 ('-' :: t) = none :=
    Text.digitsValue?_eq_none (c := '-') rfl (by simp)
  have hbase : based? ('-' :: t) = none := rfl
  change (based? ('-' :: t)).elim
    (if isPaddedNumber ('-' :: t) then none else Text.toNat? 10 ('-' :: t)) some = none
  rw [hbase, hpadded, hread]
  rfl

theorem negative?_minus {t : Text} (hbase : based? t = none)
    (hpadded : isPaddedNumber ('-' :: t) = false) :
    negative? ('-' :: t) = (Text.toNat? 10 t).map fun n => -(n : Int) := by
  simp only [negative?, hbase, hpadded, Bool.false_eq_true, if_false]

theorem isPaddedNumber_ofNat (n : Nat) :
    isPaddedNumber (Text.ofNat n) = false ∧ isPaddedNumber ('-' :: Text.ofNat n) = false := by
  refine isPaddedNumber_eq_false (fun c hc => ?_) fun d r h =>
    absurd h (Text.ofNat_ne_zero_cons n d r)
  exact Text.isDigit_of_mem_ofNat (List.mem_of_mem_head? hc)

theorem natural?_ofNat (n : Nat) : natural? (Text.ofNat n) = some n := by
  have hbase := based?_digits fun c hc => Text.isDigit_of_mem_ofNat (n := n) hc
  have hpadded := (isPaddedNumber_ofNat n).1
  have hread := Text.toNat?_ofNat n
  obtain ⟨c, r, heq, hc⟩ := Text.ofNat_eq_cons n
  rw [heq] at hbase hpadded hread ⊢
  rw [natural?_digit hc hbase hpadded, hread]

/-! ## Integers -/

theorem integer?_ofInt (n : Int) : integer? (Text.ofInt n) = some n := by
  cases n with
  | ofNat n =>
    rw [integer?, Text.ofInt, natural?_ofNat]
    rfl
  | negSucc n =>
    have hbase := based?_digits fun c hc => Text.isDigit_of_mem_ofNat (n := n + 1) hc
    have hpadded := (isPaddedNumber_ofNat (n + 1)).2
    rw [integer?, Text.ofInt, natural?_minus hpadded, negative?_minus hbase hpadded,
      Text.toNat?_ofNat]
    rfl

/-! ## Words -/

/-- The text begins with a digit, or with a digit behind a minus sign. -/
def IsNumeric (t : Text) : Prop := ∃ c r, c.isDigit = true ∧ (t = c :: r ∨ t = '-' :: c :: r)

theorem IsNumeric.not_isOneOf {t : Text} (h : IsNumeric t) (words : List Text)
    (hwords : (words.all fun w => match w with
      | '-' :: c :: _ => !c.isDigit
      | c :: _ => !c.isDigit
      | [] => true) = true) : t.isOneOf words = false := by
  rw [Text.isOneOf, List.any_eq_false]
  intro w hw
  rw [List.all_eq_true] at hwords
  have hword := hwords w hw
  obtain ⟨c, r, hc, rfl | rfl⟩ := h
  · rw [beq_iff_eq]
    rintro rfl
    split at hword
    · rename_i heq
      obtain ⟨rfl, -⟩ := List.cons.inj heq
      exact absurd hc (by decide)
    · rename_i heq
      obtain ⟨rfl, -⟩ := List.cons.inj heq
      simp [hc] at hword
    · rename_i heq
      exact absurd heq (by simp)
  · rw [beq_iff_eq]
    rintro rfl
    simp [hc] at hword

theorem isNumeric_ofNat (n : Nat) : IsNumeric (Text.ofNat n) := by
  obtain ⟨c, r, heq, hc⟩ := Text.ofNat_eq_cons n
  exact ⟨c, r, hc, .inl heq⟩

theorem isNumeric_ofInt (n : Int) : IsNumeric (Text.ofInt n) := by
  cases n with
  | ofNat n => exact isNumeric_ofNat n
  | negSucc n =>
    obtain ⟨c, r, heq, hc⟩ := Text.ofNat_eq_cons (n + 1)
    exact ⟨c, r, hc, .inr (by rw [Text.ofInt, heq])⟩

theorem isNumeric_fractional (x : Binary64) : IsNumeric (Decimal.fractional x) := by
  obtain ⟨c, r, -, heq, hc, -⟩ := Decimal.fractionalMagnitude_start x
  refine ⟨c, r, hc, ?_⟩
  rw [Decimal.fractional, Decimal.sign, heq]
  cases x.isNegative with
  | true => exact .inr rfl
  | false => exact .inl rfl

theorem IsNumeric.no_word {t : Text} (h : IsNumeric t) :
    t ≠ [] ∧ isNullWord t = false ∧ bool? t = none := by
  refine ⟨?_, h.not_isOneOf _ (by decide), ?_⟩
  · rintro rfl
    obtain ⟨c, r, -, h | h⟩ := h <;> exact absurd h (by simp)
  · rw [bool?, h.not_isOneOf _ (by decide), h.not_isOneOf _ (by decide)]
    rfl

/-! ## Doubles -/

theorem integer?_fractional (x : Binary64) :
    isPaddedNumber (Decimal.fractional x) = false ∧ integer? (Decimal.fractional x) = none := by
  obtain ⟨c, r, m, heq, hc, hm, hmark⟩ := Decimal.fractionalMagnitude_start x
  have hmDigit : m.isDigit = false ∧ Text.digitOf? 10 m = none := by
    rcases hmark with rfl | rfl <;> exact ⟨rfl, rfl⟩
  have hbase : based? (c :: r) = none := by
    refine based?_eq_none fun d hd => ?_
    rw [← heq] at hd
    rcases Decimal.fractionalMagnitude_mem hd with h | rfl | rfl | rfl
    · refine ⟨?_, ?_, ?_⟩ <;> (rintro rfl; exact absurd h (by decide))
    all_goals decide
  have hread : Text.toNat? 10 (c :: r) = none :=
    Text.digitsValue?_eq_none hmDigit.2 (List.mem_cons_of_mem c hm)
  obtain ⟨hpadded, hpadded'⟩ : isPaddedNumber (c :: r) = false ∧
      isPaddedNumber ('-' :: c :: r) = false := by
    refine isPaddedNumber_eq_false (fun d hd => ?_) fun d u h => ?_
    · rw [← Option.some.inj hd]
      exact hc
    · obtain ⟨-, rfl⟩ := List.cons.inj h
      rw [List.all_eq_false]
      exact ⟨m, hm, by simp [hmDigit.1]⟩
  rw [Decimal.fractional, Decimal.sign, heq]
  cases x.isNegative with
  | true =>
    refine ⟨hpadded', ?_⟩
    change integer? ('-' :: c :: r) = none
    rw [integer?, natural?_minus hpadded', negative?_minus hbase hpadded', hread]
    rfl
  | false =>
    refine ⟨hpadded, ?_⟩
    change integer? (c :: r) = none
    have hminus : negative? (c :: r) = none := by
      unfold negative?
      split
      · rename_i h
        rw [(List.cons.inj h).1] at hc
        exact absurd hc (by decide)
      · rfl
    rw [integer?, natural?_digit hc hbase hpadded, hread, hminus]

theorem IsNumeric.real? {t : Text} (h : IsNumeric t) :
    Scalar.real? t = (Decimal.read? t).filter Binary64.isFinite := by
  have hplus : ∀ r, t ≠ '+' :: r := by
    rintro r rfl
    obtain ⟨c, u, hc, heq | heq⟩ := h
    · rw [← (List.cons.inj heq).1] at hc
      exact absurd hc (by decide)
    · exact absurd (List.cons.inj heq).1 (by decide)
  have hinf := h.not_isOneOf [".inf", ".Inf", ".INF"] (by decide)
  have hminus := h.not_isOneOf ["-.inf", "-.Inf", "-.INF"] (by decide)
  have hnan := h.not_isOneOf [".nan", ".NaN", ".NAN"] (by decide)
  unfold Scalar.real?
  dsimp only
  split
  · exact absurd rfl (hplus _)
  · rw [if_neg (by simp), hinf, hminus, hnan]
    rfl

theorem real?_fractional {x : Binary64} (hfinite : x.isFinite = true) :
    real? (Decimal.fractional x) = some x := by
  rw [(isNumeric_fractional x).real?, Decimal.read?_fractional hfinite, Option.filter_some,
    if_pos hfinite]

/-! ## Values -/

/-- The number is an integer or a finite double. -/
def isFiniteNumber : Number → Bool
  | .integer _ _ => true
  | .real x => x.isFinite

theorem realText_finite {x : Binary64} (h : x.isFinite = true) :
    realText x = Decimal.fractional x := by
  have hfield : x.exponentField ≠ 2047 := by simpa [Binary64.isFinite] using h
  have hfield' : (x.exponentField == 2047) = false := beq_false_of_ne hfield
  have hnan : x.isNaN = false := by rw [Binary64.isNaN, hfield', Bool.false_and]
  have hinfinite : x.isInfinite = false := by rw [Binary64.isInfinite, hfield', Bool.false_and]
  rw [realText, hnan, hinfinite]
  rfl

theorem isNumeric_numberText {n : Number} (h : isFiniteNumber n = true) :
    IsNumeric (numberText n) := by
  cases n with
  | integer n => exact isNumeric_ofInt n
  | real x =>
    rw [numberText, realText_finite h]
    exact isNumeric_fractional x

/-- A finite number has the value that it is written for. -/
theorem value?_numberText {n : Number} (h : isFiniteNumber n = true) :
    value? (numberText n) = some (.number n) := by
  obtain ⟨hne, hnull, hbool⟩ := (isNumeric_numberText h).no_word
  unfold value?
  rw [if_neg (by simp [hne, hnull]), hbool]
  cases n with
  | integer n hrange =>
    have hnumber : Number.ofInt? n = some (.integer n hrange) := dif_pos hrange
    simp only [numberText, integer?_ofInt, hnumber]
  | real x =>
    obtain ⟨hpadded, hinteger⟩ := integer?_fractional x
    simp only [numberText, realText_finite h, hinteger, value?.number, hpadded, Bool.false_eq_true,
      if_false, real?_fractional h]

end Scenarist.Yaml.Scalar

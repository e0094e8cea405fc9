import Scenarist.Proofs.Yaml.Faithful

/-! # Keys that are words

A key that looks like a name is written plain, and a few names are words for null and the booleans.
A plain key begins with a letter or an underscore, so it is never a number.
-/

namespace Scenarist

theorem Text.isOneOf_append (t : Text) (a b : List Text) :
    t.isOneOf (a ++ b) = (t.isOneOf a || t.isOneOf b) :=
  List.any_append

/-! ## No digits -/

theorem Text.digitOf?_eq_none {c : Char} (h : c.isDigit = false) : digitOf? 10 c = none := by
  have hrange : ¬('0' ≤ c ∧ c ≤ '9') := by
    rw [Bool.eq_false_iff, ne_eq, Char.isDigit, Bool.and_eq_true, decide_eq_true_eq,
      decide_eq_true_eq] at h
    exact h
  rw [digitOf?, digitValue?, if_neg hrange]
  split
  · rw [Option.filter_some, if_neg (by simp)]
  split
  · rw [Option.filter_some, if_neg (by simp)]
  · rfl

theorem Decimal.read?_not_finite {c : Char} {r : Text} (hdigit : c.isDigit = false)
    (hplus : c ≠ '+')
    (hminus : c ≠ '-') (hdot : c ≠ '.') : (read? (c :: r)).filter Binary64.isFinite = none := by
  have hmagnitude : magnitude? false (c :: r) = none := by
    simp [magnitude?, hdigit, hdot, Text.toNat?]
  have hread : read? (c :: r) = unsigned? false (c :: r) := by simp [read?, hminus, hplus]
  rw [hread, unsigned?]
  split
  · rfl
  split
  · rfl
  · rw [hmagnitude]
    rfl

namespace Yaml

namespace Scalar

variable {c : Char} {r : Text}

theorem integer?_eq_none (hdigit : c.isDigit = false) (hplus : c ≠ '+') (hminus : c ≠ '-') :
    integer? (c :: r) = none := by
  have hbase : based? (c :: r) = none := by
    have hzero : c ≠ '0' := by
      rintro rfl
      exact absurd hdigit (by decide)
    simp [based?, hzero]
  have hread : Text.toNat? 10 (c :: r) = none :=
    Text.digitsValue?_eq_none (Text.digitOf?_eq_none hdigit) List.mem_cons_self
  simp [integer?, natural?, negative?, hplus, hminus, hbase, hread]

theorem real?_eq_none (hdigit : c.isDigit = false) (hplus : c ≠ '+') (hminus : c ≠ '-')
    (hdot : c ≠ '.') :
    real? (c :: r) = none := by
  have hread := Decimal.read?_not_finite (r := r) hdigit hplus hminus hdot
  simp [real?, Text.isOneOf, hplus, hminus, hdot, hread]

/-- What does not look like a number is a word for null or a boolean, or else a string. -/
theorem value?_eq_of_start (hdigit : c.isDigit = false) (hplus : c ≠ '+') (hminus : c ≠ '-')
    (hdot : c ≠ '.') :
    value? (c :: r) =
      if isNullWord (c :: r) then some .null
      else some (((bool? (c :: r)).map Tree.bool).getD (.string (c :: r))) := by
  have hinteger := integer?_eq_none (r := r) hdigit hplus hminus
  have hreal := real?_eq_none (r := r) hdigit hplus hminus hdot
  rw [value?]
  by_cases hnull : isNullWord (c :: r) = true
  · simp [hnull]
  · cases hbool : bool? (c :: r) <;> simp [hnull, hinteger, value?.number, hreal]

end Scalar

/-! ## Plain keys -/

/-- The names that are read as null or as a boolean. -/
def reservedKeys : List Text :=
  ["null", "Null", "NULL", "true", "True", "TRUE", "false", "False", "FALSE"]

theorem isOneOf_reservedKeys {t : Text} (h : t ≠ "~".toList) :
    t.isOneOf reservedKeys = (Scalar.isNullWord t || (Scalar.bool? t).isSome) := by
  have htilde : t.isOneOf ["~"] = false := by simpa [Text.isOneOf] using h
  have hnull : Scalar.isNullWord t = (t.isOneOf ["null", "Null", "NULL"] || t.isOneOf ["~"]) :=
    Text.isOneOf_append t ["null", "Null", "NULL"] ["~"]
  have hbool : (Scalar.bool? t).isSome =
      (t.isOneOf ["true", "True", "TRUE"] || t.isOneOf ["false", "False", "FALSE"]) := by
    rw [Scalar.bool?]
    cases t.isOneOf ["true", "True", "TRUE"] <;> cases t.isOneOf ["false", "False", "FALSE"] <;> rfl
  rw [hnull, hbool, htilde, Bool.or_false, ← Text.isOneOf_append, ← Text.isOneOf_append]
  rfl

theorem scalarValue?_plainKey {k : Text} (h : isPlainKey k = true) :
    Node.scalarValue? none (keyStyle k) k =
      if Scalar.isNullWord k then some .null
        else some (((Scalar.bool? k).map Tree.bool).getD (.string k)) := by
  obtain ⟨-, c, r, rfl, hc, hminus, hdot⟩ := Layout.plainKey_spec h
  have hdigit : c.isDigit = false := by
    rw [isPlainKey, Bool.and_eq_true, Bool.or_eq_true, beq_iff_eq] at h
    rcases h.1 with h | rfl
    · exact Text.isDigit_letter h
    · rfl
  have hplus : c ≠ '+' := Layout.ne_of_word hc rfl
  rw [keyStyle, if_pos h]
  exact Scalar.value?_eq_of_start hdigit hplus hminus hdot

theorem scalarValue?_quotedKey {k : Text} (h : isPlainKey k = false) :
    Node.scalarValue? none (keyStyle k) k = some (.string k) := by
  rw [keyStyle, h]
  rfl

theorem isTextKey_eq (k : Text) : isTextKey k = !k.isOneOf reservedKeys := by
  cases hplain : isPlainKey k with
  | true =>
    have htilde : k ≠ "~".toList := by
      rintro rfl
      exact absurd hplain (by decide)
    rw [isTextKey, scalarValue?_plainKey hplain, isOneOf_reservedKeys htilde]
    cases Scalar.isNullWord k <;> cases Scalar.bool? k <;> simp
  | false =>
    have hnone : k.isOneOf reservedKeys = false := by
      have hall : reservedKeys.all isPlainKey = true := by decide
      rw [Text.isOneOf, List.any_eq_false]
      intro word hword hk
      rw [beq_iff_eq.mp hk, List.all_eq_true.mp hall word hword] at hplain
      exact absurd hplain (by decide)
    rw [isTextKey, scalarValue?_quotedKey hplain, hnone]
    simp

theorem eq_of_scalarValue?_key {k u : Text}
    (h : Node.scalarValue? none (keyStyle k) k = some (.string u)) :
    u = k := by
  cases hplain : isPlainKey k with
  | true =>
    rw [scalarValue?_plainKey hplain] at h
    split at h
    · exact absurd h (by simp)
    · cases hbool : Scalar.bool? k with
      | some b => simp [hbool] at h
      | none => simpa [hbool, eq_comm] using h
  | false =>
    rw [scalarValue?_quotedKey hplain] at h
    exact (Tree.string.inj (Option.some.inj h)).symm

end Yaml

end Scenarist

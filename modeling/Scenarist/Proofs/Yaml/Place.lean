import Scenarist.Yaml.Spot

/-! # Places in a document

The spots of a text are its characters one after the other, from a place on. A piece of the text is
read with the rest of the text behind it, so a place says where the rest begins.
-/

namespace Scenarist.Yaml

/-- The character ends its line. -/
def endsLine (c : Char) : Bool := isBreak c || c == '\u0085'

structure Place where
  index : Nat
  line : Nat
  column : Nat

namespace Place

def start : Place := ⟨0, 0, 0⟩

/-- The place behind a character. -/
def next (p : Place) (c : Char) : Place :=
  if endsLine c then ⟨p.index + 1, p.line + 1, 0⟩ else ⟨p.index + 1, p.line, p.column + 1⟩

/-- A character in this place. -/
def spot (p : Place) (c : Char) : Spot := ⟨c, p.index, p.line, p.column⟩

/-- The place behind a text. -/
def after (p : Place) (t : Text) : Place := t.foldl next p

end Place

def spots (p : Place) (t : Text) : List Spot := locate p.index p.line p.column t

/-- A character as it is read. -/
def shown (c : Char) : Char := if c = '\u0085' then '\n' else c

/-! ## One character -/

theorem not_isBreak_of_not_endsLine {c : Char} (h : endsLine c = false) : isBreak c = false :=
  (Bool.or_eq_false_iff.mp h).1

theorem spots_nil (p : Place) : spots p [] = [⟨'\x00', p.index, p.line, p.column⟩] := by
  rw [spots, locate]

theorem spots_cons (p : Place) {c : Char} (h : c ≠ '\r') (t : Text) :
    spots p (c :: t) = ⟨shown c, p.index, p.line, p.column⟩ :: spots (p.next c) t := by
  rw [spots, locate.eq_3 _ _ _ _ _ (fun r hc _ => h hc)]
  simp only [shown, Place.next, endsLine, spots]
  by_cases hfeed : c = '\n'
  · subst hfeed
    rfl
  by_cases hnext : c = '\u0085'
  · subst hnext
    rfl
  rw [if_neg (by simp [h, hfeed, hnext])]
  by_cases hbreak : isBreak c
  · simp [hbreak, hnext]
  · simp [hbreak, hnext]

theorem shown_ne_null {c : Char} (h : c ≠ '\x00') : shown c ≠ '\x00' := by
  unfold shown
  split
  · decide
  · exact h

theorem shown_eq {c : Char} (h : c ≠ '\u0085') : shown c = c := if_neg h

theorem charAt_zero (p : Place) {c : Char} (h : c ≠ '\r') (t : Text) :
    charAt 0 (spots p (c :: t)) = shown c := by
  rw [spots_cons p h]
  rfl

theorem charAt_succ (p : Place) {c : Char} (h : c ≠ '\r') (t : Text) (n : Nat) :
    charAt (n + 1) (spots p (c :: t)) = charAt n (spots (p.next c) t) := by
  rw [spots_cons p h]
  rfl

theorem isDocumentMark_cons (s : Spot) (r : List Spot) :
    isDocumentMark (s :: r) = true ↔ s.column = 0 ∧ (s.char = '-' ∨ s.char = '.') ∧
      charAt 0 r = s.char ∧ charAt 1 r = s.char ∧ isGap (charAt 2 r) = true := by
  rw [isDocumentMark]
  simp only [Bool.and_eq_true, Bool.or_eq_true, beq_iff_eq, and_assoc]
  rfl

theorem line_le_of_mem {i l c : Nat} {t : Text} {s : Spot} (h : s ∈ locate i l c t) :
    l ≤ s.line := by
  fun_induction locate i l c t with
  | case1 => simp_all
  | case2 i l c r ih =>
    rcases List.mem_cons.mp h with rfl | h
    · exact Nat.le_refl _
    · exact Nat.le_of_succ_le (ih h)
  | case3 i l c d r _ _ ih =>
    rcases List.mem_cons.mp h with rfl | h
    · exact Nat.le_refl _
    · exact Nat.le_of_succ_le (ih h)
  | case4 i l c d r _ _ _ ih =>
    rcases List.mem_cons.mp h with rfl | h
    · exact Nat.le_refl _
    · exact Nat.le_of_succ_le (ih h)
  | case5 i l c d r _ _ _ ih =>
    rcases List.mem_cons.mp h with rfl | h
    · exact Nat.le_refl _
    · exact ih h

/-! ## Places behind texts -/

namespace Place

@[simp] theorem after_nil (p : Place) : p.after [] = p := rfl

@[simp] theorem after_cons (p : Place) (c : Char) (t : Text) :
    p.after (c :: t) = (p.next c).after t := rfl

theorem after_append (p : Place) (t u : Text) : p.after (t ++ u) = (p.after t).after u :=
  List.foldl_append

@[simp] theorem next_index (p : Place) (c : Char) : (p.next c).index = p.index + 1 := by
  unfold next
  split <;> rfl

theorem after_index (p : Place) (t : Text) : (p.after t).index = p.index + t.length := by
  induction t generalizing p with
  | nil => rfl
  | cons c t ih =>
    rw [after_cons, ih, next_index, List.length_cons]
    omega

theorem next_of_endsLine (p : Place) {c : Char} (h : endsLine c = true) :
    p.next c = ⟨p.index + 1, p.line + 1, 0⟩ := if_pos h

theorem next_of_not_endsLine (p : Place) {c : Char} (h : endsLine c = false) :
    p.next c = ⟨p.index + 1, p.line, p.column + 1⟩ := by
  rw [next, h]
  rfl

theorem column_next (p : Place) (c : Char) : ((p.next c).column == 0) = endsLine c := by
  cases h : endsLine c with
  | true => rw [next_of_endsLine p h]; rfl
  | false => rw [next_of_not_endsLine p h]; rfl

theorem line_le_next (p : Place) (c : Char) : p.line ≤ (p.next c).line := by
  unfold next
  split
  · exact Nat.le_succ _
  · exact Nat.le_refl _

theorem line_le_after (p : Place) (t : Text) : p.line ≤ (p.after t).line := by
  induction t generalizing p with
  | nil => exact Nat.le_refl _
  | cons c t ih => exact Nat.le_trans (p.line_le_next c) (ih (p.next c))

theorem after_line (p : Place) {t : Text} (h : ∀ c ∈ t, endsLine c = false) :
    (p.after t).line = p.line ∧ (p.after t).column = p.column + t.length := by
  induction t generalizing p with
  | nil => exact ⟨rfl, rfl⟩
  | cons c t ih =>
    have hc := h c (by simp)
    obtain ⟨hline, hcolumn⟩ := ih (p.next c) fun d hd => h d (by simp [hd])
    rw [after_cons, hline, hcolumn, next_of_not_endsLine p hc, List.length_cons]
    exact ⟨rfl, by dsimp only; omega⟩

theorem line_lt_after (p : Place) {t : Text} {c : Char} (hmem : c ∈ t) (h : endsLine c = true) :
    p.line < (p.after t).line := by
  induction t generalizing p with
  | nil => simp at hmem
  | cons d t ih =>
    rcases List.mem_cons.mp hmem with rfl | hmem
    · have := (p.next c).line_le_after t
      rw [next_of_endsLine p h] at this
      rw [after_cons, next_of_endsLine p h]
      exact this
    · exact Nat.lt_of_le_of_lt (p.line_le_next d) (ih (p.next d) hmem)

theorem after_feed (p : Place) (t : Text) : (p.after (t ++ ['\n'])).column = 0 := by
  rw [after_append]
  rfl

end Place

end Scenarist.Yaml

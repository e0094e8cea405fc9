import Scenarist.Text.Basic
import Mathlib.Data.List.TakeDrop

/-! # Putting texts together and taking them apart

What the cutters of texts give for a text that was put together: ends come off, blanks around a
text are trimmed, and the first part up to a sign is found.
-/

namespace Scenarist.Text

/-! ## Starts and ends -/

theorem dropStart?_append (s t : Text) : dropStart? s (s ++ t) = some t := by
  induction s with
  | nil => cases t <;> rfl
  | cons c s ih => simpa [dropStart?] using ih

theorem dropStart?_cons_ne {c d : Char} (s t : Text) (h : c ≠ d) :
    dropStart? (c :: s) (d :: t) = none := by
  simp [dropStart?, h]

theorem eq_append_of_dropStart? {s t r : Text} (h : dropStart? s t = some r) : t = s ++ r := by
  induction s generalizing t with
  | nil =>
    cases t <;> simpa [dropStart?] using h
  | cons c s ih =>
    cases t with
    | nil => simp [dropStart?] at h
    | cons d t =>
      simp only [dropStart?] at h
      split at h
      · rename_i hc
        rw [hc, ih h, List.cons_append]
      · simp at h

theorem dropEnd?_append (t s : Text) : dropEnd? s (t ++ s) = some t := by
  rw [dropEnd?, List.reverse_append, dropStart?_append]
  simp

theorem eq_append_of_dropEnd? {s t r : Text} (h : dropEnd? s t = some r) : t = r ++ s := by
  obtain ⟨u, hu, rfl⟩ := Option.map_eq_some_iff.mp h
  have heq := congrArg List.reverse (eq_append_of_dropStart? hu)
  rwa [List.reverse_append, List.reverse_reverse, List.reverse_reverse] at heq

theorem dropEnd?_last_ne {c d : Char} (t : Text) (h : c ≠ d) : dropEnd? [c] (t ++ [d]) = none := by
  rw [dropEnd?, List.reverse_append]
  simp [dropStart?_cons_ne _ _ h]

/-! ## Occurrences -/

theorem occursIn_iff {needle t : Text} :
    occursIn needle t = true ↔ ∃ x y, t = x ++ (needle ++ y) := by
  induction t with
  | nil =>
    rw [occursIn, List.isEmpty_iff]
    constructor
    · rintro rfl
      exact ⟨[], [], rfl⟩
    · rintro ⟨x, y, h⟩
      exact (List.append_eq_nil_iff.mp (List.append_eq_nil_iff.mp h.symm).2).1
  | cons c t ih =>
    rw [occursIn, Bool.or_eq_true, List.isPrefixOf_iff_prefix, ih]
    constructor
    · rintro (⟨y, h⟩ | ⟨x, y, rfl⟩)
      · exact ⟨[], y, h.symm⟩
      · exact ⟨c :: x, y, rfl⟩
    · rintro ⟨x, y, h⟩
      cases x with
      | nil => exact .inl ⟨y, h.symm⟩
      | cons d x => exact .inr ⟨x, y, (List.cons.inj h).2⟩

/-- A text that occurs in one as long with a character before it is that one, or begins with the
character. -/
theorem occursIn_cons_eq {needle t : Text} {c : Char} (h : occursIn needle (c :: t) = true)
    (hlen : needle.length = t.length) (hc : needle.head? ≠ some c) : needle = t := by
  obtain ⟨x, y, heq⟩ := occursIn_iff.mp h
  have hsum := congrArg List.length heq
  simp only [List.length_cons, List.length_append] at hsum
  cases x with
  | nil =>
    cases needle with
    | nil => exact (List.eq_nil_of_length_eq_zero hlen.symm).symm
    | cons d needle =>
      obtain ⟨rfl, -⟩ := List.cons.inj heq
      exact absurd rfl hc
  | cons d x =>
    rw [List.length_cons] at hsum
    obtain rfl : x = [] := List.eq_nil_of_length_eq_zero (by omega)
    obtain rfl : y = [] := List.eq_nil_of_length_eq_zero (by omega)
    simpa using (List.cons.inj heq).2.symm

theorem occursIn_concat_eq {needle t : Text} {c : Char} (h : occursIn needle (t ++ [c]) = true)
    (hlen : needle.length = t.length) (hc : needle.getLast? ≠ some c) : needle = t := by
  obtain ⟨x, y, heq⟩ := occursIn_iff.mp h
  have hback : occursIn needle.reverse (c :: t.reverse) = true := by
    refine occursIn_iff.mpr ⟨y.reverse, x.reverse, ?_⟩
    simpa using congrArg List.reverse heq
  have hsame := occursIn_cons_eq hback (by simpa using hlen) (by simpa using hc)
  exact List.reverse_inj.mp hsame

/-! ## Trimming -/

/-- The text is not empty, and neither end is blank. -/
def IsTrimmed (t : Text) : Prop :=
  (∃ c r, t = c :: r ∧ isBlank c = false) ∧ ∃ r c, t = r ++ [c] ∧ isBlank c = false

theorem IsTrimmed.ne_nil {t : Text} (h : IsTrimmed t) : t ≠ [] := by
  obtain ⟨⟨c, r, rfl, -⟩, -⟩ := h
  simp

theorem isTrimmed_of_forall {t : Text} (hne : t ≠ []) (h : ∀ c ∈ t, isBlank c = false) :
    IsTrimmed t := by
  obtain ⟨c, r, rfl⟩ := List.exists_cons_of_ne_nil hne
  exact ⟨⟨c, r, rfl, h c List.mem_cons_self⟩,
    ⟨_, _, (List.dropLast_concat_getLast hne).symm, h _ (List.getLast_mem hne)⟩⟩

theorem trim_padded (before t after : Text) (hb : ∀ c ∈ before, isBlank c = true)
    (ha : ∀ c ∈ after, isBlank c = true) (ht : IsTrimmed t) :
      trim (before ++ (t ++ after)) = t := by
  obtain ⟨⟨c, r, hc, hcb⟩, ⟨r', d, hd, hdb⟩⟩ := ht
  have hstart : trimStart (before ++ (t ++ after)) = t ++ after := by
    rw [trimStart, List.dropWhile_append_of_pos hb, hc, List.cons_append,
      List.dropWhile_cons_of_neg (by simp [hcb])]
  rw [trim, hstart, trimEnd, List.reverse_append,
    List.dropWhile_append_of_pos (by simpa using ha), hd, List.reverse_append,
    List.reverse_singleton, List.singleton_append,
    List.dropWhile_cons_of_neg (by simp [hdb])]
  simp

theorem trim_trimmed (t : Text) (ht : IsTrimmed t) : trim t = t := by
  simpa using trim_padded [] t [] (by simp) (by simp) ht

theorem trim_ne_nil {c : Char} {r : Text} (h : isBlank c = false) : trim (c :: r) ≠ [] := by
  rw [trim, trimStart, List.dropWhile_cons_of_neg (by simp [h]), trimEnd, List.reverse_cons,
    List.dropWhile_append]
  split <;> simp [h]

/-! ## Cutting -/

theorem splitFirst?_append (c : Char) (a b : Text) (h : c ∉ a) :
    splitFirst? c (a ++ c :: b) = some (a, b) := by
  induction a with
  | nil => simp [splitFirst?]
  | cons d a ih =>
    simp only [List.mem_cons, not_or] at h
    simp [splitFirst?, Ne.symm h.1, ih h.2]

theorem splitLast?_of_not_mem {c : Char} {t : Text} (h : c ∉ t) : splitLast? c t = none := by
  induction t with
  | nil => rfl
  | cons d t ih =>
    simp only [List.mem_cons, not_or] at h
    rw [splitLast?, ih h.2]
    exact if_neg (Ne.symm h.1)

theorem splitLast?_append {c : Char} (a : Text) {b : Text} (h : c ∉ b) :
    splitLast? c (a ++ c :: b) = some (a, b) := by
  induction a with
  | nil => simp [splitLast?, splitLast?_of_not_mem h]
  | cons d a ih => simp [splitLast?, ih]

theorem takeWhile_append {p : Char → Bool} {a b : Text} (ha : ∀ c ∈ a, p c = true)
    (hb : ∀ c ∈ b.head?, p c = false) :
    (a ++ b).takeWhile p = a ∧ (a ++ b).dropWhile p = b := by
  rw [List.takeWhile_append_of_pos ha, List.dropWhile_append_of_pos ha]
  cases b with
  | nil => simp
  | cons c r => simp [hb c rfl]

theorem span_append (p : Char → Bool) (a b : Text) (ha : ∀ c ∈ a, p c = true)
    (hb : ∀ c r, b = c :: r → p c = false) : (a ++ b).span p = (a, b) := by
  have hhead : ∀ c ∈ b.head?, p c = false := by
    intro c hc
    obtain ⟨r, hr⟩ := List.head?_eq_some_iff.mp hc
    exact hb c r hr
  rw [List.span_eq_takeWhile_dropWhile, (takeWhile_append ha hhead).1,
    (takeWhile_append ha hhead).2]

theorem join_cons_cons (sep a b : Text) (r : List Text) :
    join sep (a :: b :: r) = a ++ (sep ++ join sep (b :: r)) := by
  simp [join]

theorem mem_join {sep c : Char} {pieces : List Text} (h : c ∈ join [sep] pieces) :
    c = sep ∨ ∃ piece ∈ pieces, c ∈ piece := by
  induction pieces with
  | nil => cases h
  | cons piece pieces ih =>
    cases pieces with
    | nil => exact .inr ⟨piece, List.mem_cons_self, h⟩
    | cons next pieces =>
      rw [join_cons_cons] at h
      rcases List.mem_append.mp h with h | h
      · exact .inr ⟨piece, List.mem_cons_self, h⟩
      rcases List.mem_append.mp h with h | h
      · exact .inl (List.mem_singleton.mp h)
      rcases ih h with heq | ⟨found, hfound, hc⟩
      · exact .inl heq
      · exact .inr ⟨found, List.mem_cons_of_mem _ hfound, hc⟩

theorem length_le_join (sep t : Text) (l : List Text) (h : t ∈ l) :
    t.length ≤ (join sep l).length := by
  induction l with
  | nil => simp at h
  | cons a r ih =>
    cases r with
    | nil => simp at h; simp [join, h]
    | cons b r =>
      rw [join_cons_cons]
      simp only [List.length_append]
      rcases List.mem_cons.mp h with rfl | h
      · omega
      · have := ih h
        omega

end Scenarist.Text

import Scenarist.Proofs.Text.Pieces

/-! # Trimming

Every text is what trimming leaves, with blanks around it.
-/

namespace Scenarist.Text

theorem exists_trimStart (t : Text) : ∃ a, t = a ++ trimStart t ∧ ∀ c ∈ a, isBlank c = true := by
  induction t with
  | nil => exact ⟨[], rfl, by simp⟩
  | cons c t ih =>
    cases hc : isBlank c with
    | true =>
      obtain ⟨a, ht, ha⟩ := ih
      refine ⟨c :: a, ?_, by simpa [hc] using ha⟩
      rw [trimStart, List.dropWhile_cons_of_pos hc, List.cons_append]
      exact congrArg (c :: ·) ht
    | false => exact ⟨[], by rw [trimStart, List.dropWhile_cons_of_neg (by simp [hc])]; rfl,
        by simp⟩

theorem trimStart_pad {a : Text} {c : Char} (t : Text) (ha : ∀ d ∈ a, isBlank d = true)
    (hc : isBlank c = false) :
    trimStart (a ++ c :: t) = c :: t := by
  rw [trimStart, List.dropWhile_append_of_pos ha, List.dropWhile_cons_of_neg (by simp [hc])]

theorem trim_of_blank {t : Text} (h : ∀ c ∈ t, isBlank c = true) : trim t = [] := by
  have hstart : trimStart t = [] := by
    rw [trimStart, ← List.append_nil t, List.dropWhile_append_of_pos h]
    rfl
  rw [trim, hstart]
  rfl

theorem exists_padded (t : Text) :
    (∀ c ∈ t, isBlank c = true) ∨
      ∃ a u z, t = a ++ (u ++ z) ∧ (∀ c ∈ a, isBlank c = true) ∧ (∀ c ∈ z, isBlank c = true) ∧
        IsTrimmed u := by
  induction t with
  | nil => exact .inl (by simp)
  | cons c t ih =>
    cases hc : isBlank c with
    | true =>
      rcases ih with h | ⟨a, u, z, rfl, ha, hz, hu⟩
      · exact .inl (by simpa [hc] using h)
      · exact .inr ⟨c :: a, u, z, rfl, by simpa [hc] using ha, hz, hu⟩
    | false =>
      rcases ih with h | ⟨a, u, z, rfl, -, hz, -, s, d, rfl, hd⟩
      · exact .inr ⟨[], [c], t, rfl, by simp, h, ⟨c, [], rfl, hc⟩, [], c, rfl, hc⟩
      · exact .inr ⟨[], c :: (a ++ (s ++ [d])), z, by simp, by simp, hz, ⟨c, _, rfl, hc⟩,
          c :: (a ++ s), d, by simp, hd⟩

theorem exists_trim (t : Text) :
    ∃ a z, t = a ++ (trim t ++ z) ∧ (∀ c ∈ a, isBlank c = true) ∧ ∀ c ∈ z, isBlank c = true := by
  rcases exists_padded t with h | ⟨a, u, z, rfl, ha, hz, hu⟩
  · exact ⟨t, [], by simp [trim_of_blank h], h, by simp⟩
  · exact ⟨a, z, by rw [trim_padded a u z ha hz hu], ha, hz⟩

theorem exists_trim_of_head {t : Text} (h : ∀ c ∈ t.head?, isBlank c = false) :
    ∃ z, t = trim t ++ z ∧ ∀ c ∈ z, isBlank c = true := by
  obtain ⟨a, z, ht, ha, hz⟩ := exists_trim t
  cases a with
  | nil => exact ⟨z, ht, hz⟩
  | cons c a =>
    have hc := h c (by rw [ht]; rfl)
    simp [hc] at ha

theorem trim_eq_nil_iff {t : Text} : trim t = [] ↔ ∀ c ∈ t, isBlank c = true := by
  refine ⟨fun h => ?_, trim_of_blank⟩
  rcases exists_padded t with hblank | ⟨a, u, z, rfl, ha, hz, hu⟩
  · exact hblank
  · rw [trim_padded a u z ha hz hu] at h
    exact absurd h hu.ne_nil

theorem isTrimmed_trim {t : Text} (h : trim t ≠ []) : IsTrimmed (trim t) := by
  rcases exists_padded t with hblank | ⟨a, u, z, rfl, ha, hz, hu⟩
  · exact absurd (trim_of_blank hblank) h
  · rwa [trim_padded a u z ha hz hu]

theorem trim_trim (t : Text) : trim (trim t) = trim t := by
  by_cases h : trim t = []
  · rw [h]
    rfl
  · exact trim_trimmed _ (isTrimmed_trim h)

theorem trim_pad (a t z : Text) (ha : ∀ c ∈ a, isBlank c = true) (hz : ∀ c ∈ z, isBlank c = true) :
    trim (a ++ (t ++ z)) = trim t := by
  rcases exists_padded t with h | ⟨a', u, z', rfl, ha', hz', hu⟩
  · have hall := List.forall_mem_append.mpr ⟨ha, List.forall_mem_append.mpr ⟨h, hz⟩⟩
    rw [trim_of_blank h, trim_of_blank hall]
  · have hbefore := List.forall_mem_append.mpr ⟨ha, ha'⟩
    have hafter := List.forall_mem_append.mpr ⟨hz', hz⟩
    have hpadded := trim_padded (a ++ a') u (z' ++ z) hbefore hafter hu
    rw [trim_padded a' u z' ha' hz' hu]
    simpa using hpadded

theorem exists_trimEnd (t : Text) :
    ∃ y z, t = y ++ z ∧ (y = [] ∨ ∃ u c, y = u ++ [c] ∧ isBlank c = false) ∧
      ∀ c ∈ z, isBlank c = true := by
  rcases exists_padded t with h | ⟨a, u, z, rfl, -, hz, -, s, d, rfl, hd⟩
  · exact ⟨[], t, rfl, .inl rfl, h⟩
  · exact ⟨a ++ (s ++ [d]), z, by simp, .inr ⟨a ++ s, d, by simp, hd⟩, hz⟩

theorem mem_trim {t : Text} {c : Char} (h : c ∈ t) (hc : isBlank c = false) : c ∈ trim t := by
  obtain ⟨a, z, ht, ha, hz⟩ := exists_trim t
  rw [ht, List.mem_append, List.mem_append] at h
  rcases h with h | h | h
  · exact absurd (ha c h) (by simp [hc])
  · exact h
  · exact absurd (hz c h) (by simp [hc])

theorem count_trim {c : Char} (hc : isBlank c = false) (t : Text) :
    (trim t).count c = t.count c := by
  obtain ⟨a, z, ht, ha, hz⟩ := exists_trim t
  have hnot {u : Text} (hu : ∀ d ∈ u, isBlank d = true) : u.count c = 0 := by
    rw [List.count_eq_zero]
    intro hmem
    simp [hu c hmem] at hc
  conv_rhs => rw [ht, List.count_append, List.count_append, hnot ha, hnot hz, Nat.zero_add,
    Nat.add_zero]

theorem length_trim_le (t : Text) : (trim t).length ≤ t.length := by
  obtain ⟨a, z, ht, -, -⟩ := exists_trim t
  have hlen := congrArg List.length ht
  simp only [List.length_append] at hlen
  omega

/-! ## The first sign -/

theorem splitFirst?_eq_some {c : Char} {t a b : Text} (h : splitFirst? c t = some (a, b)) :
    t = a ++ c :: b ∧ c ∉ a := by
  induction t generalizing a with
  | nil => simp [splitFirst?] at h
  | cons d t ih =>
    simp only [splitFirst?] at h
    split at h
    · rename_i hd
      obtain ⟨rfl, rfl⟩ := by simpa using h
      simp [hd]
    · rename_i hd
      obtain ⟨⟨a', b'⟩, hab, heq⟩ := Option.map_eq_some_iff.mp h
      obtain ⟨rfl, rfl⟩ := by simpa using heq
      obtain ⟨rfl, hnot⟩ := ih hab
      exact ⟨rfl, by simp [hnot, Ne.symm hd]⟩

end Scenarist.Text

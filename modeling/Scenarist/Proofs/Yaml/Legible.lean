import Scenarist.Proofs.Yaml.Reread

/-! # Texts that are read back

Which quoted texts are read as they were written. Of the line breaks that are not escaped the next
line is never read back; the separators are, unless a blank stands beside one or the mark of a
document behind one.
-/

namespace Scenarist.Yaml

/-- The line separator and the paragraph separator. -/
def isSeparator (c : Char) : Bool := c == '\u2028' || c == '\u2029'

/-- The text is read back when `before` stands before it. -/
def isLegibleBehind (before : Char) : Text → Bool
  | [] => true
  | c :: r =>
    c != '\u0085' && !(before == ' ' && isSeparator c) &&
      !(isSeparator before && (c == ' ' || startsMark (c :: r))) && isLegibleBehind c r

/-- The text is read back behind its quote. -/
def isLegible (t : Text) : Bool := isLegibleBehind '"' t

/-! ## Bounds on what is read -/

namespace Gap

theorem length_addBlank (c : Char) (g : Gap) :
    (g.addBlank c).folded.length ≤ g.folded.length + 1 := by
  cases g <;> simp [addBlank, folded]

theorem length_addBreak (c : Char) (g : Gap) :
    (g.addBreak c).folded.length ≤ g.folded.length + 1 := by
  cases g with
  | empty =>
    simp only [addBreak, folded]
    split <;> simp
  | blanks t =>
    simp only [addBreak, folded]
    split <;> simp
  | breaks first more =>
    cases first with
    | none => simp [addBreak, folded]
    | some d =>
      simp only [addBreak, folded]
      split
      · rw [if_neg (by simp)]
        split <;> simp_all
      · simp

end Gap

theorem length_rereadFrom {margin : Bool} {gap : Gap} {t u : Text}
    (h : rereadFrom margin gap t = some u) :
    u.length ≤ gap.folded.length + t.length := by
  induction t generalizing margin gap u with
  | nil =>
    obtain rfl := Option.some.inj h
    exact Nat.le_refl _
  | cons c t ih =>
    rw [rereadFrom] at h
    split at h
    · exact absurd h (by simp)
    split at h
    · have := ih h
      have := gap.length_addBlank ' '
      rw [List.length_cons]
      omega
    split at h
    · have := ih h
      have := gap.length_addBreak (shown c)
      rw [List.length_cons]
      omega
    · obtain ⟨v, hv, rfl⟩ := Option.map_eq_some_iff.mp h
      have := ih hv
      simp only [Gap.folded, List.length_append, List.length_cons, List.length_nil] at this ⊢
      omega

theorem Gap.folded_addBlank {c : Char} {g : Gap} (h : g = .empty ∨ g.folded ≠ []) :
    (g.addBlank c).folded ≠ [] := by
  cases g with
  | empty => simp [addBlank, folded]
  | blanks t => simp [addBlank, folded]
  | breaks first more => exact h.resolve_left (by simp)

theorem Gap.folded_addBreak (c : Char) (g : Gap) : (g.addBreak c).folded ≠ [] := by
  have hfirst : (Gap.breaks (some c) []).folded ≠ [] := by
    simp only [folded]
    split <;> simp
  cases g with
  | empty => exact hfirst
  | blanks t => exact hfirst
  | breaks first more =>
    cases first with
    | none => simp [addBreak, folded]
    | some d =>
      simp only [addBreak, folded]
      split <;> simp

theorem eq_nil_of_rereadFrom {margin : Bool} {gap : Gap} {t : Text}
    (h : rereadFrom margin gap t = some [])
    (hgap : gap = .empty ∨ gap.folded ≠ []) : gap.folded = [] ∧ t = [] := by
  induction t generalizing margin gap with
  | nil => exact ⟨Option.some.inj h, rfl⟩
  | cons c t ih =>
    rw [rereadFrom] at h
    split at h
    · exact absurd h (by simp)
    split at h
    · have hblank := Gap.folded_addBlank (c := ' ') hgap
      exact absurd (ih h (.inr hblank)).1 hblank
    split at h
    · have hbreak := Gap.folded_addBreak (shown c) gap
      exact absurd (ih h (.inr hbreak)).1 hbreak
    · obtain ⟨v, -, heq⟩ := Option.map_eq_some_iff.mp h
      exact absurd heq (by simp)

/-- The characters that a gap was made from, as far as it has kept them. -/
def Gap.kept : Gap → Text
  | .empty => []
  | .blanks t => t
  | .breaks first more => first.toList ++ more

theorem shown_ne_nextLine (c : Char) : shown c ≠ '\u0085' := by
  unfold shown
  split
  · decide
  · assumption

theorem Gap.folded_mem {gap : Gap} {d : Char} (h : d ∈ gap.folded) (hspace : d ≠ ' ') :
    d ∈ gap.kept := by
  cases gap with
  | empty => exact absurd h (by simp [Gap.folded])
  | blanks t => exact h
  | breaks first more =>
    cases first with
    | none => exact h
    | some c =>
      simp only [Gap.folded] at h
      simp only [Gap.kept, Option.toList_some, List.singleton_append, List.mem_cons]
      split at h
      · split at h
        · exact absurd (List.mem_singleton.mp h) hspace
        · exact .inr h
      · exact List.mem_cons.mp h

theorem Gap.kept_addBlank {gap : Gap} {d : Char} (h : d ∈ (gap.addBlank ' ').kept)
    (hspace : d ≠ ' ') :
    d ∈ gap.kept := by
  cases gap with
  | empty => exact absurd (List.mem_singleton.mp h) hspace
  | blanks t =>
    rcases List.mem_append.mp h with h | h
    · exact h
    · exact absurd (List.mem_singleton.mp h) hspace
  | breaks first more => exact h

theorem Gap.kept_addBreak {gap : Gap} {c d : Char} (h : d ∈ (gap.addBreak c).kept) (hne : d ≠ c) :
    d ∈ gap.kept := by
  cases gap with
  | empty => exact absurd (List.mem_singleton.mp h) hne
  | blanks t => exact absurd (List.mem_singleton.mp h) hne
  | breaks first more =>
    simp only [Gap.addBreak, Gap.kept, List.mem_append, List.mem_singleton] at h ⊢
    rcases h with h | h | h
    · exact .inl h
    · exact .inr h
    · exact absurd h hne

theorem nextLine_not_read {margin : Bool} {gap : Gap} {t u : Text}
    (h : rereadFrom margin gap t = some u)
    (hgap : '\u0085' ∉ gap.kept) : '\u0085' ∉ u := by
  induction t generalizing margin gap u with
  | nil =>
    obtain rfl := Option.some.inj h
    exact fun hmem => hgap (Gap.folded_mem hmem (by decide))
  | cons c t ih =>
    rw [rereadFrom] at h
    split at h
    · exact absurd h (by simp)
    split at h
    · exact ih h fun hmem => hgap (Gap.kept_addBlank hmem (by decide))
    split at h
    · exact ih h fun hmem => hgap (Gap.kept_addBreak hmem (shown_ne_nextLine c).symm)
    · rename_i hraw
      obtain ⟨v, hv, rfl⟩ := Option.map_eq_some_iff.mp h
      have hrest := ih hv (by simp [Gap.kept])
      rw [List.mem_append, List.mem_cons]
      rintro (hmem | rfl | hmem)
      · exact hgap (Gap.folded_mem hmem (by decide))
      · exact hraw rfl
      · exact hrest hmem

/-! ## Texts read as they are -/

/-- The gap is what was read of `pending`, the last character before is `before`, and nothing was
lost so far. -/
inductive Pending : Gap → Text → Char → Prop where
  | none {before : Char} (hblank : before ≠ ' ') (hline : isSeparator before = false) :
    Pending .empty [] before
  | blanks {t : Text} (hne : t ≠ []) (hall : ∀ c ∈ t, c = ' ') : Pending (.blanks t) t ' '
  | breaks {first before : Char} {more : Text} (hall : ∀ c ∈ first :: more, isSeparator c = true)
    (hline : isSeparator before = true) : Pending (.breaks (some first) more) (first :: more) before

namespace Pending

variable {gap : Gap} {pending : Text} {before : Char}

theorem folded (h : Pending gap pending before) : gap.folded = pending := by
  cases h with
  | none => rfl
  | blanks => rfl
  | @breaks first _ more hall =>
    have hfirst := hall first (by simp)
    rw [Gap.folded, if_neg]
    rintro rfl
    exact absurd hfirst (by decide)

theorem no_nextLine (h : Pending gap pending before) : '\u0085' ∉ gap.kept := by
  cases h with
  | none => simp [Gap.kept]
  | blanks hne hall => exact fun hmem => absurd (hall _ hmem) (by decide)
  | breaks hall => exact fun hmem => absurd (hall _ hmem) (by decide)

theorem addBlank (h : Pending gap pending before) (hline : isSeparator before = false) :
    Pending (gap.addBlank ' ') (pending ++ [' ']) ' ' := by
  cases h with
  | none => exact .blanks (by simp) (by simp)
  | blanks hne hall => exact .blanks (by simp) (by grind)
  | breaks hall hbefore => exact absurd hbefore (by simp [hline])

theorem addBlank_lost (h : Pending gap pending before) (hline : isSeparator before = true) :
    (gap.addBlank ' ').folded.length ≤ pending.length := by
  cases h with
  | none hblank hbefore => exact absurd hline (by simp [hbefore])
  | blanks => exact absurd hline (by decide)
  | breaks hall hline =>
      exact Nat.le_of_eq (congrArg List.length (Pending.breaks hall hline).folded)

theorem addBreak (h : Pending gap pending before) {c : Char} (hc : isSeparator c = true)
    (hblank : before ≠ ' ') :
    Pending (gap.addBreak c) (pending ++ [c]) c := by
  cases h with
  | none => exact .breaks (by simpa using hc) hc
  | blanks => exact absurd rfl hblank
  | breaks hall => exact .breaks (by grind) hc

theorem addBreak_lost (h : Pending gap pending ' ') (c : Char) :
    (gap.addBreak c).folded.length ≤ pending.length := by
  cases h with
  | none hblank => exact absurd rfl hblank
  | breaks hall hline => exact absurd hline (by decide)
  | blanks hne =>
    have := List.length_pos_iff.mpr hne
    simp only [Gap.addBreak, Gap.folded]
    split <;> simp <;> omega

end Pending

theorem rereadFrom_ne_of_lost {margin : Bool} {gap : Gap} {pending : Text}
    (h : gap.folded.length ≤ pending.length) (c : Char) (t : Text) :
    rereadFrom margin gap t ≠ some (pending ++ c :: t) := by
  intro hread
  have := length_rereadFrom hread
  simp only [List.length_append, List.length_cons] at this
  omega

theorem isRawBreak_eq (c : Char) : isRawBreak c = (c == '\u0085' || isSeparator c) := by
  rw [isRawBreak, isSeparator, Bool.or_assoc]

/-- A text is read as it is exactly when it is legible behind what stands before it. -/
theorem rereadFrom_eq_self {gap : Gap} {pending : Text} {before : Char}
    (h : Pending gap pending before)
    (t : Text) :
    rereadFrom (isSeparator before) gap t = some (pending ++ t) ↔
      isLegibleBehind before t = true := by
  induction t generalizing gap pending before with
  | nil => simp [rereadFrom, isLegibleBehind, h.folded]
  | cons c t ih =>
    have hextend : pending ++ c :: t = pending ++ [c] ++ t := by simp
    rw [rereadFrom, isLegibleBehind]
    by_cases hmark : (isSeparator before && startsMark (c :: t)) = true
    · rw [if_pos hmark]
      obtain ⟨hline, hstart⟩ := Bool.and_eq_true_iff.mp hmark
      simp [hline, hstart]
    rw [if_neg hmark]
    have hstart : isSeparator before = false ∨ startsMark (c :: t) = false := by
      rwa [Bool.not_eq_true, Bool.and_eq_false_iff] at hmark
    by_cases hspace : c = ' '
    · subst hspace
      have hblank : isSeparator ' ' = false := rfl
      rw [if_pos rfl]
      cases hline : isSeparator before with
      | true => simpa using rereadFrom_ne_of_lost (h.addBlank_lost hline) ' ' t
      | false =>
        have := ih (h.addBlank hline)
        rw [hblank] at this
        rw [hextend, this]
        simp [hblank]
    rw [if_neg hspace]
    by_cases hnext : c = '\u0085'
    · subst hnext
      rw [if_pos (by decide)]
      simp only [bne_self_eq_false, Bool.false_and, Bool.false_eq_true, iff_false]
      intro hread
      refine absurd ?_
        (nextLine_not_read hread fun hmem => h.no_nextLine (Gap.kept_addBreak hmem (by decide)))
      simp
    cases hsep : isSeparator c with
    | true =>
      rw [isRawBreak_eq, hsep, Bool.or_true, if_pos rfl, shown_eq hnext]
      by_cases hblank : before = ' '
      · subst hblank
        simpa [hsep] using rereadFrom_ne_of_lost (h.addBreak_lost c) c t
      · have := ih (h.addBreak hsep hblank)
        rw [hsep] at this
        rw [hextend, this]
        simpa [hnext, hspace, hblank] using fun _ => hstart
    | false =>
      have := ih (.none hspace hsep)
      rw [hsep] at this
      rw [isRawBreak_eq, hsep, beq_false_of_ne hnext, Bool.or_self, if_neg Bool.false_ne_true,
        h.folded]
      simpa [hnext, hspace, hsep, ← this] using fun _ => hstart

theorem reread?_eq_self {t : Text} : reread? t = some t ↔ isLegible t = true := by
  have hpending : Pending .empty [] '"' := .none (by decide) rfl
  exact rereadFrom_eq_self hpending t

end Scenarist.Yaml

import Scenarist.Unicode.Case
import Mathlib.Data.List.Basic

/-! # Characters that fold alike

Folding sends a character to one that is folded to itself, so the characters of an orbit are exactly
those that fold alike. All that has to be known of the tables is that their runs do not meet and
that no run goes on where another ends.
-/

namespace Scenarist.Unicode

namespace CaseRun

/-! ## Runs -/

theorem maps_iff {run : CaseRun} {n : Nat} :
    run.maps n = true ↔ (run.first ≤ n ∧ n ≤ run.last) ∧ (n - run.first) % run.step = 0 := by
  simp [maps]

theorem source?_eq_some_iff {run : CaseRun} {m n : Nat} :
    run.source? m = some n ↔ run.maps n = true ∧ run.apply n = m := by
  unfold source? apply
  constructor
  · intro h
    split at h
    · rename_i hm
      simp only [Bool.and_eq_true, decide_eq_true_eq] at hm
      cases h
      exact ⟨hm.2, by omega⟩
    · cases h
  · rintro ⟨hn, rfl⟩
    have hrange := (maps_iff.mp hn).1
    have hback : n - run.first + run.image - run.image + run.first = n := by omega
    rw [hback, if_pos]
    simp [hn]

/-- The code points of the run, and their images, are characters. -/
def IsScalar (run : CaseRun) : Prop :=
  (run.last < 0xD800 ∨ 0xDFFF < run.first ∧ run.last < 0x110000) ∧
    (run.image + (run.last - run.first) < 0xD800 ∨
      0xDFFF < run.image ∧ run.image + (run.last - run.first) < 0x110000)

instance (run : CaseRun) : Decidable run.IsScalar := inferInstanceAs (Decidable (_ ∧ _))

/-- The two runs have no code point in common. -/
def isApart (a b : CaseRun) : Bool := a.last.blt b.first || b.last.blt a.first

/-- No image of `a` is mapped by `b`: it lies beyond the run, or between its steps. -/
def isSettledBy (a b : CaseRun) : Bool :=
  (a.image + (a.last - a.first)).blt b.first || b.last.blt a.image ||
    (a.step % 2 == 0 || a.first == a.last) && b.step % 2 == 0 && a.image % 2 != b.first % 2

variable {run a b : CaseRun} {n : Nat}

theorem IsScalar.toNat_ofNat (h : run.IsScalar) (hn : run.maps n = true) :
    (Char.ofNat n).toNat = n ∧ (Char.ofNat (run.apply n)).toNat = run.apply n := by
  have hrange := (maps_iff.mp hn).1
  have hvalid : n.isValidChar ∧ (run.apply n).isValidChar := by
    unfold IsScalar at h
    unfold Nat.isValidChar apply
    omega
  constructor
  · rw [Char.ofNat, dif_pos hvalid.1]
    rfl
  · rw [Char.ofNat, dif_pos hvalid.2]
    rfl

theorem not_maps_of_isApart (h : a.isApart b = true) (ha : a.maps n = true) : b.maps n = false := by
  have hrange := (maps_iff.mp ha).1
  rw [Bool.eq_false_iff]
  intro hb
  have hrange' := (maps_iff.mp hb).1
  simp only [isApart, Bool.or_eq_true, Nat.blt_eq] at h
  omega

theorem even_of_maps (hstep : run.step % 2 = 0) (hn : run.maps n = true) :
    (n - run.first) % 2 = 0 :=
  Nat.mod_eq_zero_of_dvd
    (Nat.dvd_trans (Nat.dvd_of_mod_eq_zero hstep) (Nat.dvd_of_mod_eq_zero (maps_iff.mp hn).2))

theorem not_maps_apply (h : a.isSettledBy b = true) (hn : a.maps n = true) :
    b.maps (a.apply n) = false := by
  have hrange := (maps_iff.mp hn).1
  rw [Bool.eq_false_iff]
  intro hb
  have hrange' := (maps_iff.mp hb).1
  unfold apply at hb hrange'
  simp only [isSettledBy, Bool.or_eq_true, Bool.and_eq_true, Nat.blt_eq, beq_iff_eq, bne_iff_ne]
    at h
  rcases h with (h | h) | ⟨⟨ha, hstep⟩, hodd⟩
  · omega
  · omega
  · have heven : (n - a.first) % 2 = 0 := by
      rcases ha with ha | ha
      · exact even_of_maps ha hn
      · have : n - a.first = 0 := by omega
        rw [this]
    have heven' := even_of_maps hstep hb
    omega

end CaseRun

/-! ## Tables -/

variable {runs : List CaseRun} {run : CaseRun} {c d : Char}

theorem applyRuns_of_forall (h : ∀ run ∈ runs, run.maps c.toNat = false) :
    applyRuns runs c = c := by
  have hnone : runs.find? (·.maps c.toNat) = none := List.find?_eq_none.mpr (by simpa using h)
  rw [applyRuns, hnone]

/-- No two of the runs have a code point in common. -/
def areApart : List CaseRun → Bool
  | [] => true
  | run :: runs => runs.all (run.isApart ·) && areApart runs

theorem applyRuns_of_maps (hapart : areApart runs = true) (hrun : run ∈ runs)
    (h : run.maps c.toNat = true) :
    applyRuns runs c = Char.ofNat (run.apply c.toNat) := by
  induction runs with
  | nil => cases hrun
  | cons first runs ih =>
    obtain ⟨hfirst, hapart⟩ := Bool.and_eq_true_iff.mp hapart
    cases hmaps : first.maps c.toNat with
    | true =>
      rcases List.mem_cons.mp hrun with rfl | hrun
      · simp [applyRuns, hmaps]
      · rw [CaseRun.not_maps_of_isApart (List.all_eq_true.mp hfirst run hrun) hmaps] at h
        cases h
    | false =>
      have hrest : run ∈ runs := by
        rcases List.mem_cons.mp hrun with rfl | hrun
        · rw [hmaps] at h
          cases h
        · exact hrun
      have hskip : applyRuns (first :: runs) c = applyRuns runs c := by simp [applyRuns, hmaps]
      rw [hskip, ih hapart hrest]

theorem applyRuns_cases (runs : List CaseRun) (c : Char) :
    applyRuns runs c = c ∨ ∃ run ∈ runs, run.maps c.toNat = true ∧
      applyRuns runs c = Char.ofNat (run.apply c.toNat) := by
  unfold applyRuns
  split
  · rename_i run hrun
    exact .inr ⟨run, List.mem_of_find?_eq_some hrun, by simpa using List.find?_some hrun, rfl⟩
  · exact .inl rfl

theorem eq_or_source_of_applyRuns (hscalar : ∀ run ∈ runs, run.IsScalar)
    (h : applyRuns runs c = d) :
    c = d ∨ c.toNat ∈ runs.filterMap (·.source? d.toNat) := by
  rcases applyRuns_cases runs c with heq | ⟨run, hrun, hmaps, heq⟩
  · exact .inl (heq.symm.trans h)
  · refine .inr (List.mem_filterMap.mpr ⟨run, hrun, CaseRun.source?_eq_some_iff.mpr ⟨hmaps, ?_⟩⟩)
    rw [← h, heq, ((hscalar run hrun).toNat_ofNat hmaps).2]

/-! ## Folding -/

theorem isScalar_foldRuns : ∀ run ∈ foldRuns, run.IsScalar := by decide +kernel

theorem areApart_foldRuns : areApart foldRuns = true := by decide +kernel

theorem isSettled_foldRuns : (foldRuns.all fun a => foldRuns.all fun b => a.isSettledBy b) = true :=
  by decide +kernel

theorem fold_fold (c : Char) : fold (fold c) = fold c := by
  rcases applyRuns_cases foldRuns c with heq | ⟨run, hrun, hmaps, heq⟩
  · exact congrArg (applyRuns foldRuns) heq
  · refine applyRuns_of_forall fun b hb => ?_
    change b.maps (applyRuns foldRuns c).toNat = false
    rw [heq, ((isScalar_foldRuns run hrun).toNat_ofNat hmaps).2]
    exact CaseRun.not_maps_apply
      (List.all_eq_true.mp (List.all_eq_true.mp isSettled_foldRuns run hrun) b hb) hmaps

/-- The orbit of a character holds the characters that fold as it does. -/
theorem mem_orbit : c ∈ orbit d ↔ fold c = fold d := by
  simp only [orbit, List.mem_cons, List.mem_filterMap, Option.map_eq_some_iff,
    CaseRun.source?_eq_some_iff]
  constructor
  · rintro (rfl | ⟨run, hrun, n, ⟨hmaps, happly⟩, rfl⟩)
    · exact fold_fold d
    · have hn := ((isScalar_foldRuns run hrun).toNat_ofNat hmaps).1
      rw [fold, applyRuns_of_maps areApart_foldRuns hrun (hn.symm ▸ hmaps), hn, happly,
        Char.ofNat_toNat]
  · intro h
    rcases applyRuns_cases foldRuns c with heq | ⟨run, hrun, hmaps, heq⟩
    · exact .inl (heq.symm.trans h)
    · refine .inr ⟨run, hrun, c.toNat, ⟨hmaps, ?_⟩, Char.ofNat_toNat c⟩
      rw [← h, fold, heq, ((isScalar_foldRuns run hrun).toNat_ofNat hmaps).2]

end Scenarist.Unicode

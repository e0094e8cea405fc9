import Scenarist.Proofs.Pattern.Escaped
import Scenarist.Proofs.Pattern.Matching
import Scenarist.Proofs.Unicode.Orbit

/-! # Letters of any case

Where case does not count, a letter of a pattern matches the characters that fold as it does. So a
run of letters matches the texts that fold as the run does, and between anchors only the whole of
such a text.
-/

namespace Scenarist.Pattern

open Unicode

theorem CharSet.contains_anyCase_char (c d : Char) :
    (anyCase (char c)).contains d = true ↔ fold d = fold c := by
  simp only [contains, List.any_eq_true, beq_iff_eq]
  constructor
  · rintro ⟨x, hx, rfl⟩
    exact (mem_orbit.mp hx).symm
  · exact fun h => ⟨c, mem_orbit.mpr h.symm, rfl⟩

namespace Expr

variable {before behind : Option Char} {m t : Text} {e : Expr}

theorem isBounded_anyCaseThen (t : Text) (h : e.IsBounded) : (e.anyCaseThen t).IsBounded := by
  induction t with
  | nil => exact h
  | cons c t ih => exact ⟨trivial, ih⟩

theorem matches_anyCaseThen : (e.anyCaseThen t).Matches before m behind ↔
    ∃ m₁ m₂, m = m₁ ++ m₂ ∧ m₁.map fold = t.map fold ∧ e.Matches (lastOr before m₁) m₂ behind := by
  induction t generalizing before m with
  | nil =>
    constructor
    · exact fun h => ⟨[], m, rfl, rfl, h⟩
    · rintro ⟨m₁, m₂, rfl, hfold, h⟩
      obtain rfl : m₁ = [] := List.map_eq_nil_iff.mp hfold
      exact h
  | cons c t ih =>
    change (seq (.set (.anyCase (.char c))) (e.anyCaseThen t)).Matches before m behind ↔ _
    simp only [Matches, CharSet.contains_anyCase_char, ih]
    constructor
    · rintro ⟨_, _, rfl, ⟨d, rfl, hd⟩, m₁, m₂, rfl, hfold, h⟩
      refine ⟨d :: m₁, m₂, rfl, by simp [hd, hfold], ?_⟩
      simpa using h
    · rintro ⟨m₁, m₂, rfl, hfold, h⟩
      cases m₁ with
      | nil => simp at hfold
      | cons d m₁ =>
        obtain ⟨hd, hfold⟩ := List.cons.inj hfold
        exact ⟨[d], m₁ ++ m₂, rfl, ⟨d, rfl, hd⟩, m₁, m₂, rfl, hfold, by simpa using h⟩

/-- Between the anchors the letters match the texts that fold as they do, and no part of another
text. -/
theorem occursIn_whole (t u : Text) :
    (seq (.look .textStart) ((look .textEnd).anyCaseThen t)).occursIn u = true ↔
      u.map fold = t.map fold := by
  have hbounded : (seq (.look .textStart) ((look .textEnd).anyCaseThen t)).IsBounded :=
    ⟨trivial, isBounded_anyCaseThen t trivial⟩
  rw [occursIn_iff hbounded]
  simp only [Matches, matches_anyCaseThen, Look.holds, Option.isNone_iff_eq_none]
  constructor
  · rintro ⟨x, _, y, rfl, _, _, rfl, ⟨rfl, hstart⟩, m, _, rfl, hfold, rfl, hend⟩
    obtain rfl := List.getLast?_eq_none_iff.mp hstart
    obtain rfl := List.head?_eq_none_iff.mp hend
    simpa using hfold
  · exact fun hfold => ⟨[], u, [], by simp, [], u, rfl, ⟨rfl, rfl⟩, u, [], by simp, hfold, rfl, rfl⟩

end Expr

end Scenarist.Pattern

import Scenarist.Proofs.Chain.Scan

/-! # Texts behind each other

What the splitter does in a text that begins with another is settled by the last segment of the
first and by what this leaves open.
-/

namespace Scenarist.Chain

/-- What is open at the end of a text. -/
def finish (s : Scanner) (before : Text) : Text → Scanner
  | [] => s
  | c :: r =>
    match s.next (ignoresQuotes before.reverse) c with
    | some s' => finish s' (c :: before) r
    | none => finish .start [] r

section

variable {s s' : Scanner} {before : Text} {c : Char}

theorem scan_next (h : s.next (ignoresQuotes before.reverse) c = some s') (t : Text) :
    scan s before (c :: t) = scan s' (c :: before) t := by
  rw [scan, h]

theorem scan_cut (h : s.next (ignoresQuotes before.reverse) c = none) (t : Text) :
    scan s before (c :: t) = before.tail.reverse :: scan .start [] t := by
  rw [scan, h]

theorem finish_next (h : s.next (ignoresQuotes before.reverse) c = some s') (t : Text) :
    finish s before (c :: t) = finish s' (c :: before) t := by
  rw [finish, h]

theorem finish_cut (h : s.next (ignoresQuotes before.reverse) c = none) (t : Text) :
    finish s before (c :: t) = finish .start [] t := by
  rw [finish, h]

end

/-- A text is gone on with in its last segment. -/
theorem scan_append (s : Scanner) (before t : Text) :
    ∃ gs g, scan s before t = gs ++ [g] ∧
      ∀ r, scan s before (t ++ r) = gs ++ scan (finish s before t) g.reverse r := by
  induction t generalizing s before with
  | nil => exact ⟨[], before.reverse, rfl, fun r => by simp [finish]⟩
  | cons c t ih =>
    cases hnext : s.next (ignoresQuotes before.reverse) c with
    | none =>
      obtain ⟨gs, g, hscan, happend⟩ := ih .start []
      refine ⟨before.tail.reverse :: gs, g, ?_, fun r => ?_⟩
      · rw [scan_cut hnext, hscan, List.cons_append]
      · rw [List.cons_append, scan_cut hnext, finish_cut hnext, happend, List.cons_append]
    | some s' =>
      obtain ⟨gs, g, hscan, happend⟩ := ih s' (c :: before)
      refine ⟨gs, g, ?_, fun r => ?_⟩
      · rw [scan_next hnext, hscan]
      · rw [List.cons_append, scan_next hnext, finish_next hnext, happend]

/-! ## Blanks before a text -/

theorem scan_pad {z : Text} (hz : ∀ c ∈ z.reverse, Text.isBlank c = true) (s : Scanner)
    (before t : Text)
    (h : s.pending = .bracket → before ≠ []) :
    finish s (before ++ z) t = finish s before t ∧
      ∃ g gs, scan s before t = g :: gs ∧ scan s (before ++ z) t = (z.reverse ++ g) :: gs := by
  induction t generalizing s before with
  | nil => exact ⟨rfl, before.reverse, [], rfl, by simp [scan]⟩
  | cons c t ih =>
    have hsame : ignoresQuotes (before ++ z).reverse = ignoresQuotes before.reverse := by
      rw [List.reverse_append, ignoresQuotes_pad hz]
    cases hnext : s.next (ignoresQuotes before.reverse) c with
    | none =>
      obtain ⟨rfl, -⟩ := Scanner.next_eq_none hnext
      have htail : (before ++ z).tail = before.tail ++ z := List.tail_append_of_ne_nil (h rfl)
      have hcut := hsame ▸ hnext
      refine ⟨by rw [finish_cut hnext, finish_cut hcut], before.tail.reverse, scan .start [] t,
        scan_cut hnext t, ?_⟩
      rw [scan_cut hcut, htail, List.reverse_append]
    | some s' =>
      have hpadded := hsame ▸ hnext
      obtain ⟨hfinish, hscan⟩ := ih s' (c :: before) (by simp)
      rw [finish_next hnext, finish_next hpadded, scan_next hnext, scan_next hpadded]
      exact ⟨hfinish, hscan⟩

end Scenarist.Chain

import Scenarist.Proofs.Chain.Scan
import Scenarist.Proofs.Outcome

/-! # Chains put together from parts

Where every part closes the quotes it opens, the splitter gives back the parts that were joined.
-/

namespace Scenarist.Chain

/-! ## The body of a quotation -/

/-- No quote ends the text: each one stands behind a backslash, and every backslash has a
character behind it. -/
inductive Sealed : Text → Prop where
  | nil : Sealed []
  | char (c : Char) (t : Text) (hq : c ≠ '"') (hb : c ≠ '\\') : Sealed t → Sealed (c :: t)
  | pair (c : Char) (t : Text) : Sealed t → Sealed ('\\' :: c :: t)

theorem Sealed.append {a b : Text} (ha : Sealed a) (hb : Sealed b) : Sealed (a ++ b) := by
  induction ha with
  | nil => exact hb
  | char c t hq hs _ ih => exact .char c _ hq hs ih
  | pair c t _ ih => exact .pair c _ ih

theorem Sealed.flatMap (f : Char → Text) (hf : ∀ c, Sealed (f c)) (t : Text) :
    Sealed (t.flatMap f) := by
  induction t with
  | nil => exact .nil
  | cons c t ih => exact (hf c).append ih

theorem Sealed.run {t : Text} (h : Sealed t) :
    Scanner.run ⟨some '"', .nothing⟩ t = some ⟨some '"', .nothing⟩ := by
  induction h with
  | nil => rfl
  | char c t hq hb _ ih =>
    have hstep : Scanner.step ⟨some '"', .nothing⟩ c = some ⟨some '"', .nothing⟩ := by
      simp [Scanner.step, Scanner.next, hb, Ne.symm hq]
    rw [Scanner.run_cons, hstep, Option.bind_some, ih]
  | pair c t _ ih =>
    have hstep : Scanner.step ⟨some '"', .backslash⟩ c = some ⟨some '"', .nothing⟩ := rfl
    rw [Scanner.run_cons]
    change Scanner.run ⟨some '"', .backslash⟩ (c :: t) = _
    rw [Scanner.run_cons, hstep, Option.bind_some, ih]

/-! ## Parts -/

/-- Outside of quotations there is nothing but inert characters. -/
inductive Closed : Text → Prop where
  | nil : Closed []
  | inert (c : Char) (t : Text) (hc : isInert c = true) : Closed t → Closed (c :: t)
  | quoted (body t : Text) (hb : Sealed body) : Closed t → Closed ('"' :: (body ++ '"' :: t))

theorem Closed.append {a b : Text} (ha : Closed a) (hb : Closed b) : Closed (a ++ b) := by
  induction ha with
  | nil => exact hb
  | inert c t hc _ ih => exact .inert c _ hc ih
  | quoted body t hs _ ih =>
    have := Closed.quoted body _ hs ih
    simpa using this

theorem Closed.of_inert (t : Text) (h : ∀ c ∈ t, isInert c = true) : Closed t := by
  induction t with
  | nil => exact .nil
  | cons c t ih => exact .inert c t (h c (by simp)) (ih fun d hd => h d (by simp [hd]))

theorem Closed.run {t : Text} (h : Closed t) : Scanner.start.run t = some .start := by
  induction h with
  | nil => rfl
  | inert c t hc _ ih =>
    rw [Scanner.run_cons, Scanner.step_inert Scanner.isSound_start hc]
    exact ih
  | quoted body t hb _ ih =>
    rw [Scanner.run_cons]
    change Scanner.run ⟨some '"', .nothing⟩ (body ++ '"' :: t) = _
    rw [Scanner.run_append, hb.run]
    exact ih

/-- A text that stays one segment wherever it stands. -/
structure IsSegment (t : Text) : Prop where
  trimmed : Text.IsTrimmed t
  closed : Closed t
  /-- It does not look like the body of an old text selector. -/
  begins : ∃ c r, t = c :: r ∧ isInert c = true ∧ c ≠ 't'

theorem IsSegment.isNeutral {t : Text} (h : IsSegment t) : IsNeutral t := by
  obtain ⟨c, r, rfl, -, hc⟩ := h.begins
  obtain ⟨⟨d, u, hd, hblank⟩, -⟩ := h.trimmed
  cases hd
  have hheeds : ignoresQuotes (c :: r) = false := by
    rw [ignoresQuotes, Text.trimStart, List.dropWhile_cons_of_neg (by simp [hblank])]
    simp [Text.dropStart?, Ne.symm hc]
  exact fun hignores => absurd hignores (by simp [hheeds])

theorem scan_segment {t : Text} (h : IsSegment t) {before : Text}
    (hb : ∀ c ∈ before.reverse, Text.isBlank c = true)
    (r : Text) : scan .start before (t ++ r) = scan .start (t.reverse ++ before) r :=
  scan_through h.closed.run before r (h.isNeutral.pad hb)

/-! ## Joining -/

/-- The segments of joined parts are the parts, with blanks around them. -/
theorem scan_join (p : Text) (ps : List Text) (h : ∀ q ∈ p :: ps, IsSegment q) (before : Text)
    (hb : ∀ c ∈ before.reverse, Text.isBlank c = true) :
    (scan .start before (Text.join " >> " (p :: ps))).map Text.trim = p :: ps := by
  have hp := h p List.mem_cons_self
  induction ps generalizing p before with
  | nil =>
    have hscan := scan_segment hp hb []
    have htrim := Text.trim_padded before.reverse p [] hb (by simp) hp.trimmed
    rw [List.append_nil] at hscan htrim
    simpa [Text.join, hscan, scan] using htrim
  | cons q qs ih =>
    have hblank : ∀ c ∈ [' '], Text.isBlank c = true := by simp [Text.isBlank]
    have hrest := ih q (fun s hs => h s (List.mem_cons_of_mem _ hs)) [' '] hblank (h q (by simp))
    have hscan := scan_segment hp hb (" >> " ++ Text.join " >> " (q :: qs))
    rw [scan_separator rfl, List.reverse_append, List.reverse_reverse, List.append_assoc] at hscan
    have htrim := Text.trim_padded before.reverse p [' '] hb hblank hp.trimmed
    rw [Text.join_cons_cons, hscan, List.map_cons, htrim, hrest]

theorem foldlM_add_trimmed (selector : Text) (ps segs : List Text) (s : Split)
    (h : segs.map Text.trim = ps) (ht : ∀ p ∈ ps, Text.IsTrimmed p) :
    segs.foldlM (Split.add selector) s = ps.foldlM (Split.add selector) s := by
  subst h
  induction segs generalizing s with
  | nil => rfl
  | cons seg segs ih =>
    have hadd : Split.add selector s (Text.trim seg) = Split.add selector s seg := by
      simp only [Split.add, Text.trim_trimmed _ (ht _ List.mem_cons_self)]
    rw [List.map_cons, List.foldlM_cons, List.foldlM_cons, hadd]
    congr 1
    funext s'
    exact ih s' fun p hp => ht p (List.mem_cons_of_mem _ hp)

theorem split_join (p : Text) (ps : List Text) (h : ∀ q ∈ p :: ps, IsSegment q) :
    split (Text.join " >> " (p :: ps)) =
      (p :: ps).foldlM (Split.add (Text.join " >> " (p :: ps))) ⟨[], none⟩ := by
  have hmap := scan_join p ps h [] (by simp)
  rw [split_eq_scan]
  · exact foldlM_add_trimmed _ _ _ _ hmap fun q hq => (h q hq).trimmed
  · obtain ⟨⟨c, r, rfl, hc⟩, -⟩ := (h p List.mem_cons_self).trimmed
    obtain ⟨u, hu⟩ : ∃ u, Text.join " >> " ((c :: r) :: ps) = c :: u := by
      cases ps <;> simp [Text.join]
    rw [hu]
    exact Text.trim_ne_nil hc

end Scenarist.Chain

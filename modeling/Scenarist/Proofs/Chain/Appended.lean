import Scenarist.Proofs.Chain.Room
import Scenarist.Proofs.Chain.Seam

/-! # Chains behind each other

With brackets between them two texts are read as the parts of the first and then those of the
second, if the first leaves no quotation open. Only one of them may capture.
-/

namespace Scenarist.Chain

/-! ## Segments -/

/-- The last segment of the first text and the first of the second get the blanks around the
brackets. -/
theorem scan_appended {a : Text} (hclosed : (finish .start [] a).quote = none) (b : Text) :
    ∃ gs g k ks, scan .start [] a = gs ++ [g] ∧ scan .start [] b = k :: ks ∧
      scan .start [] (a ++ (" >> ".toList ++ b)) = gs ++ (g ++ [' ']) :: ([' '] ++ k) :: ks := by
  obtain ⟨gs, g, ha, happend⟩ := scan_append .start [] a
  have hblank : ∀ c ∈ [' '].reverse, Text.isBlank c = true := by simp [Text.isBlank]
  obtain ⟨-, k, ks, hb, hpadded⟩ := scan_pad hblank .start [] b (by simp [Scanner.start])
  refine ⟨gs, g, k, ks, ha, hb, ?_⟩
  rw [happend, scan_separator hclosed, List.reverse_reverse]
  exact congrArg (gs ++ (g ++ [' ']) :: ·) hpadded

theorem items_appended {a : Text} (hclosed : (finish .start [] a).quote = none) (b : Text) :
    (scan .start [] (a ++ (" >> ".toList ++ b))).map item? =
      (scan .start [] a).map item? ++ (scan .start [] b).map item? := by
  obtain ⟨gs, g, k, ks, ha, hb, hall⟩ := scan_appended hclosed b
  have hblank : ∀ c ∈ [' '], Text.isBlank c = true := by simp [Text.isBlank]
  have hlast : item? (g ++ [' ']) = item? g := item?_pad (a := []) g (by simp) hblank
  have hfirst : item? ([' '] ++ k) = item? k := by
    have hpad := item?_pad (z := []) k hblank (by simp)
    rwa [List.append_nil] at hpad
  rw [ha, hb, hall, List.map_append, List.map_cons, List.map_cons, hlast, hfirst]
  simp

/-! ## Parts -/

namespace Split

variable {selector : Text} {s u u' : Split} {i : Item} {is : List Item}

/-- The parts of one text and then those of another. -/
def join (s u : Split) : Split :=
  ⟨s.parts ++ u.parts, s.capture.or (u.capture.map (s.parts.length + ·))⟩

theorem join_left (u : Split) : join ⟨[], none⟩ u = u := by
  obtain ⟨parts, capture⟩ := u
  simp [join]

theorem join_right (s : Split) : s.join ⟨[], none⟩ = s := by simp [join]

theorem push_cases (h : u.push selector i = .ok u') :
    u'.parts = u.parts ++ [(i.name, i.source)] ∧
      ((i.captured = false ∧ u'.capture = u.capture) ∨
        (i.captured = true ∧ u.capture = none ∧ u'.capture = some u.parts.length)) := by
  unfold push at h
  dsimp only at h
  split at h
  · rename_i hcaptured
    split at h
    · cases h
    · rename_i hcapture
      obtain rfl := Except.ok.inj h
      exact ⟨rfl, .inr ⟨hcaptured, by simpa using hcapture, rfl⟩⟩
  · rename_i hcaptured
    obtain rfl := Except.ok.inj h
    exact ⟨rfl, .inl ⟨by simpa using hcaptured, rfl⟩⟩

theorem capture_of_push (h : u.push selector i = .ok u') (hnone : u'.capture = none) :
    u.capture = none := by
  rcases (push_cases h).2 with ⟨-, hcapture⟩ | ⟨-, hfree, -⟩
  · rw [← hcapture, hnone]
  · exact hfree

theorem capture_of_foldlM_push (h : is.foldlM (push selector) u = .ok u')
    (hnone : u'.capture = none) : u.capture = none := by
  induction is generalizing u with
  | nil =>
    obtain rfl := Except.ok.inj h
    exact hnone
  | cons i is ih =>
    obtain ⟨v, hpush, hrest⟩ := bind_eq_ok_iff.mp h
    exact capture_of_push hpush (ih hrest)

theorem push_join (h : u.push selector i = .ok u') (hone : s.capture = none ∨ u'.capture = none)
    (other : Text) :
    (s.join u).push other i = .ok (s.join u') := by
  obtain ⟨hparts, hcapture⟩ := push_cases h
  obtain ⟨parts, capture⟩ := u'
  obtain rfl : parts = _ := hparts
  unfold push join
  rcases hcapture with ⟨hcaptured, hsame⟩ | ⟨hcaptured, hfree, hnew⟩
  · obtain rfl : capture = _ := hsame
    simp [hcaptured]
  · obtain rfl : capture = _ := hnew
    rcases hone with hs | hu
    · simp [hcaptured, hfree, hs]
    · cases hu

theorem foldlM_push_join (h : is.foldlM (push selector) u = .ok u')
    (hone : s.capture = none ∨ u'.capture = none)
    (other : Text) : is.foldlM (push other) (s.join u) = .ok (s.join u') := by
  induction is generalizing u with
  | nil =>
    obtain rfl := Except.ok.inj h
    rfl
  | cons i is ih =>
    obtain ⟨v, hpush, hrest⟩ := bind_eq_ok_iff.mp h
    have hv : s.capture = none ∨ v.capture = none := by
      rcases hone with hs | hu'
      · exact .inl hs
      · exact .inr (capture_of_foldlM_push hrest hu')
    rw [List.foldlM_cons, push_join hpush hv, ok_bind]
    exact ih hrest

theorem foldlM_push_twice (h : is.foldlM (push selector) u = .ok u') (hs : s.capture.isSome = true)
    (hu : u.capture = none)
    (hu' : u'.capture.isSome = true) (other : Text) :
    is.foldlM (push other) (s.join u) = .error (.severalCaptures other) := by
  induction is generalizing u with
  | nil =>
    obtain rfl := Except.ok.inj h
    rw [hu] at hu'
    cases hu'
  | cons i is ih =>
    obtain ⟨v, hpush, hrest⟩ := bind_eq_ok_iff.mp h
    rw [List.foldlM_cons]
    rcases (push_cases hpush).2 with ⟨hcaptured, hcapture⟩ | ⟨hcaptured, -, -⟩
    · have hv : v.capture = none := hcapture.trans hu
      rw [push_join hpush (.inr hv), ok_bind]
      exact ih hrest hv
    · obtain ⟨n, hn⟩ := Option.isSome_iff_exists.mp hs
      simp [push, join, hcaptured, hn]

end Split

/-! ## The text behind the other -/

theorem foldlM_add_eq_push {selector : Text} {gs : List Text} {is : List Item}
    (h : gs.map item? = is.map some) (s : Split) :
    gs.foldlM (Split.add selector) s = is.foldlM (Split.push selector) s := by
  induction gs generalizing is s with
  | nil =>
    obtain rfl := List.map_eq_nil_iff.mp h.symm
    rfl
  | cons g gs ih =>
    cases is with
    | nil => cases h
    | cons i is =>
      obtain ⟨hitem, hrest⟩ := List.cons.inj h
      rw [List.foldlM_cons, List.foldlM_cons, add_eq, hitem, Option.elim_some]
      exact congrArg (_ >>= ·) (funext fun s' => ih hrest s')

variable {a b : Text}

theorem split_eq_push {s : Split} (h : split a = .ok s) :
    s.items.foldlM (Split.push a) ⟨[], none⟩ = .ok s := by
  rw [← foldlM_add_eq_push (split_items h), ← split_eq_scan (trim_ne_nil_of_split h), h]

theorem trim_appended (a b : Text) : Text.trim (a ++ (" >> ".toList ++ b)) ≠ [] := by
  intro hblank
  have hall := Text.trim_eq_nil_iff.mp hblank '>' (by simp)
  exact absurd hall (by decide)

theorem split_appended {s u : Split} (ha : split a = .ok s) (hb : split b = .ok u)
    (hclosed : (finish .start [] a).quote = none) :
    split (a ++ (" >> ".toList ++ b)) =
      if s.capture.isSome ∧ u.capture.isSome
        then .error (.severalCaptures (a ++ (" >> ".toList ++ b)))
      else .ok (s.join u) := by
  have hsaid : (scan .start [] (a ++ (" >> ".toList ++ b))).map item? =
      (s.items ++ u.items).map some := by
    rw [items_appended hclosed, split_items ha, split_items hb, List.map_append]
  have hfirst :=
    Split.foldlM_push_join (s := ⟨[], none⟩) (split_eq_push ha) (.inl rfl)
      (a ++ (" >> ".toList ++ b))
  rw [Split.join_left, Split.join_left] at hfirst
  rw [split_eq_scan (trim_appended a b), foldlM_add_eq_push hsaid, List.foldlM_append, hfirst,
    ok_bind]
  split
  · rename_i hboth
    have hsecond :=
      Split.foldlM_push_twice (split_eq_push hb) hboth.1 rfl hboth.2 (a ++ (" >> ".toList ++ b))
    rwa [Split.join_right] at hsecond
  · rename_i hone
    have hsecond :=
      fun h => Split.foldlM_push_join (s := s) (split_eq_push hb) h (a ++ (" >> ".toList ++ b))
    rw [Split.join_right] at hsecond
    apply hsecond
    cases hs : s.capture with
    | none => exact .inl rfl
    | some n =>
      right
      rw [hs] at hone
      simpa using hone

theorem add_eq_segments {t : Text} (h : hasBrackets t = false) :
    Split.add t ⟨[], none⟩ t = (segments none [] t).foldlM (Split.add t) ⟨[], none⟩ := by
  rw [segments_eq_scan none [] t (by simp)]
  change _ = (scan .start [] t).foldlM (Split.add t) ⟨[], none⟩
  rw [scan_of_no_brackets h (by simp [Scanner.start])]
  simp

/-- If the first of two texts leaves no quotation open, their parts are read one behind the other,
unless both capture. A text without brackets is the one part that a scan for them finds. -/
theorem read_appended {c d : Chain} (ha : Chain.read a = .ok c) (hb : Chain.read b = .ok d)
    (hclosed : (finish .start [] a).quote = none) :
    Chain.read (a ++ (" >> ".toList ++ b)) =
        (if c.capture.isSome ∧ d.capture.isSome
          then .error (.severalCaptures (a ++ (" >> ".toList ++ b)))
        else .ok ⟨c.parts ++ d.parts, c.capture.or (d.capture.map (c.parts.length + ·))⟩) ∧
      ∀ t, hasBrackets t = false →
        Split.add t ⟨[], none⟩ t = (segments none [] t).foldlM (Split.add t) ⟨[], none⟩ := by
  refine ⟨?_, fun t => add_eq_segments⟩
  have hsplit := split_appended (split_of_read ha) (split_of_read hb) hclosed
  have hfirst := mapM_part_of_read ha
  have hsecond := mapM_part_of_read hb
  rw [read_eq, hsplit]
  by_cases hboth : c.outline.capture.isSome ∧ d.outline.capture.isSome
  · rw [if_pos hboth]
    exact (if_pos hboth).symm
  · have hparts : (c.outline.join d.outline).parts.mapM (fun p => part read p.1 p.2) =
      .ok (c.parts ++ d.parts) := by
      rw [Split.join, List.mapM_append, hfirst, hsecond]
      rfl
    rw [if_neg hboth, ok_bind, hparts, ok_bind]
    refine Eq.trans ?_ (if_neg hboth).symm
    simp [Split.join, outline]

/-- A list item in quotations and behind a backslash, and a text selector that captures. -/
theorem read_appended_list_item :
    let a : Text := "css=li[title=\"Ada >> Grace\"] >> a\\"
    let b : Text := "*text='Buy"
    Chain.read a = .ok ⟨[.plain "css" "li[title=\"Ada >> Grace\"]", .plain "css" "a\\"], none⟩ ∧
      Chain.read b = .ok ⟨[.plain "text" "'Buy"], some 0⟩ ∧ (finish .start [] a).quote = none ∧
      Chain.read (a ++ (" >> ".toList ++ b)) =
        .ok ⟨[.plain "css" "li[title=\"Ada >> Grace\"]", .plain "css" "a\\", .plain "text" "'Buy"],
          some 2⟩ := by
  intro a b
  have ha : Chain.read a =
      .ok ⟨[.plain "css" "li[title=\"Ada >> Grace\"]", .plain "css" "a\\"], none⟩ := by rfl
  have hb : Chain.read b = .ok ⟨[.plain "text" "'Buy"], some 0⟩ := by rfl
  exact ⟨ha, hb, rfl, (read_appended ha hb rfl).1⟩

end Scenarist.Chain

import Scenarist.Text.Basic

/-! # Lines

A text comes apart where a character stands, and pieces that are joined by it come apart again. No
line holds a line feed, and every list of such lines is that of a text.
-/

namespace Scenarist.Text

theorem splitAll_ne_nil (c : Char) (t : Text) : splitAll c t ≠ [] := by
  cases t with
  | nil => simp [splitAll]
  | cons d t =>
    unfold splitAll
    split
    · simp
    · split <;> simp

theorem splitAll_append {c : Char} {a : Text} (h : c ∉ a) (b : Text) :
    splitAll c (a ++ c :: b) = a :: splitAll c b := by
  induction a with
  | nil => simp [splitAll]
  | cons d a ih =>
    simp only [List.mem_cons, not_or] at h
    rw [List.cons_append, splitAll, if_neg (Ne.symm h.1), ih h.2]

theorem splitAll_of_not_mem {c : Char} {t : Text} (h : c ∉ t) : splitAll c t = [t] := by
  induction t with
  | nil => rfl
  | cons d t ih =>
    simp only [List.mem_cons, not_or] at h
    rw [splitAll, if_neg (Ne.symm h.1), ih h.2]

theorem splitAll_join {c : Char} {pieces : List Text} (hne : pieces ≠ [])
    (h : ∀ piece ∈ pieces, c ∉ piece) :
    splitAll c (join [c] pieces) = pieces := by
  induction pieces with
  | nil => exact absurd rfl hne
  | cons piece pieces ih =>
    obtain ⟨hpiece, hrest⟩ := List.forall_mem_cons.mp h
    cases pieces with
    | nil => exact splitAll_of_not_mem hpiece
    | cons next pieces =>
      rw [join, List.append_assoc, List.singleton_append, splitAll_append hpiece,
        ih (by simp) hrest]
      simp

theorem not_mem_piece {c : Char} {t piece : Text} (h : piece ∈ splitAll c t) : c ∉ piece := by
  induction t generalizing piece with
  | nil =>
    obtain rfl := List.mem_singleton.mp h
    simp
  | cons d t ih =>
    unfold splitAll at h
    split at h
    · rcases List.mem_cons.mp h with rfl | h
      · simp
      · exact ih h
    · rename_i hd
      split at h
      · rename_i hnil
        exact absurd hnil (splitAll_ne_nil c t)
      · rename_i first pieces hpieces
        rw [hpieces] at ih
        rcases List.mem_cons.mp h with rfl | h
        · rw [List.mem_cons, not_or]
          exact ⟨Ne.symm hd, ih List.mem_cons_self⟩
        · exact ih (List.mem_cons_of_mem _ h)

theorem mem_of_mem_piece {c d : Char} {t piece : Text} (h : piece ∈ splitAll c t) (hd : d ∈ piece) :
    d ∈ t := by
  induction t generalizing piece with
  | nil =>
    obtain rfl := List.mem_singleton.mp h
    exact hd
  | cons e t ih =>
    unfold splitAll at h
    split at h
    · rcases List.mem_cons.mp h with rfl | h
      · cases hd
      · exact List.mem_cons_of_mem _ (ih h hd)
    · split at h
      · rename_i hnil
        exact absurd hnil (splitAll_ne_nil c t)
      · rename_i first pieces hpieces
        rw [hpieces] at ih
        rcases List.mem_cons.mp h with rfl | h
        · rcases List.mem_cons.mp hd with rfl | hd
          · exact List.mem_cons_self
          · exact List.mem_cons_of_mem _ (ih List.mem_cons_self hd)
        · exact List.mem_cons_of_mem _ (ih (List.mem_cons_of_mem _ h) hd)

theorem feed_not_mem {t line : Text} (h : line ∈ lines t) : '\n' ∉ line := by
  unfold lines at h
  rcases List.mem_append.mp h with h | h
  · obtain ⟨piece, hpiece, rfl⟩ := List.mem_map.mp h
    have hfeed := not_mem_piece (List.dropLast_subset _ hpiece)
    unfold lines.dropReturn
    split
    · exact fun hmem => hfeed (List.dropLast_subset _ hmem)
    · exact hfeed
  · have hlast := (List.mem_filter.mp h).1
    rw [Option.mem_toList] at hlast
    exact not_mem_piece (List.mem_of_getLast? hlast)

theorem lines_append {a : Text} (h : '\n' ∉ a) (b : Text) :
    lines (a ++ '\n' :: b) = lines.dropReturn a :: lines b := by
  obtain ⟨piece, pieces, hb⟩ := List.exists_cons_of_ne_nil (splitAll_ne_nil '\n' b)
  simp only [lines, splitAll_append h, hb]
  rw [List.dropLast_cons_of_ne_nil (by simp), List.getLast?_cons_cons]
  rfl

/-! ## A text of lines -/

/-- The text in which each of these lines ends with a line end. -/
def ofLines (ls : List Text) : Text := ls.flatMap (· ++ ['\r', '\n'])

theorem lines_ofLines {ls : List Text} (h : ∀ line ∈ ls, '\n' ∉ line) :
    lines (ofLines ls) = ls := by
  induction ls with
  | nil => rfl
  | cons line ls ih =>
    obtain ⟨hline, hrest⟩ := List.forall_mem_cons.mp h
    have hreturn : '\n' ∉ line ++ ['\r'] := by simp [hline]
    have hdrop : lines.dropReturn (line ++ ['\r']) = line := by simp [lines.dropReturn]
    have htext : ofLines (line :: ls) = (line ++ ['\r']) ++ '\n' :: ofLines ls := by simp [ofLines]
    rw [htext, lines_append hreturn, hdrop, ih hrest]

/-! ## Rows

Rows are ended by the line feed alone; a carriage return belongs to its row.
-/

/-- The rows of a text that ends with a line feed. -/
def rows (t : Text) : List Text := (splitAll '\n' t).dropLast

/-- The text of rows, with a line feed behind each. -/
def ofRows (rs : List Text) : Text := rs.flatMap (· ++ ['\n'])

@[simp] theorem ofRows_nil : ofRows [] = [] := rfl

theorem ofRows_cons (row : Text) (rs : List Text) :
    ofRows (row :: rs) = row ++ '\n' :: ofRows rs := by
  simp [ofRows]

theorem ofRows_append (rs rs' : List Text) : ofRows (rs ++ rs') = ofRows rs ++ ofRows rs' :=
  List.flatMap_append

theorem ofRows_flatten (groups : List (List Text)) :
    ofRows groups.flatten = groups.flatMap ofRows := by
  induction groups with
  | nil => rfl
  | cons group groups ih => rw [List.flatten_cons, ofRows_append, ih, List.flatMap_cons]

theorem splitAll_ofRows {rs : List Text} (h : ∀ row ∈ rs, '\n' ∉ row) :
    splitAll '\n' (ofRows rs) = rs ++ [[]] := by
  induction rs with
  | nil => rfl
  | cons row rs ih =>
    obtain ⟨hrow, hrest⟩ := List.forall_mem_cons.mp h
    rw [ofRows_cons, splitAll_append hrow, ih hrest, List.cons_append]

theorem rows_ofRows {rs : List Text} (h : ∀ row ∈ rs, '\n' ∉ row) : rows (ofRows rs) = rs := by
  rw [rows, splitAll_ofRows h, List.dropLast_concat]

end Scenarist.Text

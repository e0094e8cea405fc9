import Scenarist.Proofs.Yaml.Rows

/-! # Blocks at any column

A value is written with the same rows at every column. The first row begins right behind the blanks
of its column and no row begins before them, so a dash that takes the place of the blanks takes
nothing else.
-/

namespace Scenarist.Yaml

open Layout

/-- The text with `d` blanks before each of its rows. -/
def indented (d : Nat) (t : Text) : Text := Text.ofRows ((Text.rows t).map (pad d ++ ·))

/-! ## How rows begin -/

/-- The text begins where a token may start, so with no blank. -/
def Begins (t : Text) : Prop := ∃ c r, t = c :: r ∧ isTokenStart c = true

theorem Begins.append {t : Text} (h : Begins t) (u : Text) : Begins (t ++ u) := by
  obtain ⟨c, r, rfl, hc⟩ := h
  exact ⟨c, r ++ u, rfl, hc⟩

theorem begins_word {w : Text} (h : isWord w = true) : Begins w := by
  obtain ⟨-, c, r, rfl, hc, -⟩ := isWord_spec h
  exact ⟨c, r, rfl, isTokenStart_word hc⟩

theorem begins_scalar (v : Tree) : Begins (scalar v) := by
  fun_induction scalar v with
  | case1 => exact begins_word isWord_scalar.1
  | case4 n => exact begins_word (isWord_numberText n)
  | case5 t => exact ⟨'"', _, rfl, rfl⟩
  | case8 _ _ ih => exact ih
  | _ => exact ⟨_, _, rfl, by decide⟩

theorem begins_keyText (key : Tree) : Begins (keyText key) := by
  cases key with
  | string t => exact keyText_start t
  | _ => exact begins_scalar _

theorem rowsOf_begins (v : Tree) : ∃ row rest, rowsOf v = row :: rest ∧ Begins row := by
  match v with
  | .mapping [] | .sequence [] | .null | .bool _ | .number _ | .string _ =>
      exact ⟨_, _, rfl, begins_scalar _⟩
  | .sequence (u :: _) =>
    obtain ⟨row, rest, hu⟩ := rowsOf_ne_nil u
    exact ⟨_, _, by rw [rowsOf, if_neg (by simp), rowsOfItems, hu, dashed, List.cons_append], '-',
      _, rfl, rfl⟩
  | .mapping ((key, u) :: r) =>
    rw [rowsOf, if_neg (by simp), rowsOfEntries]
    split
    · exact ⟨_, _, rfl, (begins_keyText key).append _⟩
    · exact ⟨_, _, rfl, (begins_keyText key).append _⟩
  | .tagged _ u =>
    rw [rowsOf]
    exact rowsOf_begins u

/-! ## Rows at a column -/

theorem pad_add (k d : Nat) : pad (k + d) = pad d ++ pad k := by
  rw [Nat.add_comm]
  exact List.replicate_append_replicate.symm

theorem utf8Length_pad (k : Nat) : Text.utf8Length (pad k) = k := by
  induction k with
  | zero => rfl
  | succ k ih =>
    change Text.utf8Length (' ' :: pad k) = k + 1
    rw [Text.utf8Length, ih, Nat.add_comm]
    rfl

theorem feed_not_mem_padded (k : Nat) (v : Tree) :
    ∀ row ∈ (rowsOf v).map (pad k ++ ·), '\n' ∉ row := by
  intro row hrow
  obtain ⟨row, hmem, rfl⟩ := List.mem_map.mp hrow
  simpa [pad, Text.repeated] using feed_not_mem_rowsOf v row hmem

theorem rows_block (k : Nat) (v : Tree) : Text.rows (block k v) = (rowsOf v).map (pad k ++ ·) := by
  rw [block_eq_typeset, typeset, Text.rows_ofRows (feed_not_mem_padded k v)]

theorem block_add (k d : Nat) (v : Tree) : block (k + d) v = indented d (block k v) := by
  rw [indented, rows_block, block_eq_typeset, typeset, List.map_map]
  simp [pad_add, Function.comp_def]

/-! ## The dash of an item -/

theorem linesAt_scalar (k : Nat) {v : Tree} (h : isBlock v = false) :
    linesAt k v = scalar v ++ ['\n'] := by
  rw [linesAt, block_eq_typeset, rowsOf_scalar h, typeset_cons, linesAt_pad, typeset_nil]

theorem blockItem_eq {k : Nat} {v : Tree} {t : Text} (h : block (k + 2) v = pad (k + 2) ++ t) :
    blockItem k v = pad k ++ ("- ".toList ++ t) := by
  have hlines : linesAt (k + 2) v = t := by rw [linesAt, h, linesAt_pad]
  rw [blockItem, blockItems_cons, itemText]
  cases hblock : isBlock v with
  | true => simp [hlines, blockItems]
  | false => simp [← hlines, linesAt_scalar (k + 2) hblock, blockItems]

/-- At every column stand the same rows behind blanks, the first of which begins right there. What
the dash of an item takes the place of is these blanks, a byte each. -/
theorem block_uniform (k : Nat) (v : Tree) :
    (∀ d, block (k + d) v = indented d (block k v)) ∧
    (Text.ofRows (Text.rows (block k v)) = block k v ∧ (∀ row ∈ Text.rows (block k v), '\n' ∉ row) ∧
      ∃ c row rest, Text.rows (block k v) = (pad k ++ c :: row) :: rest ∧ c ≠ ' ' ∧
        ∀ row ∈ rest, pad k <+: row) ∧
    ∃ c t, block (k + 2) v = pad (k + 2) ++ c :: t ∧ c ≠ ' ' ∧
      Text.utf8Length (pad (k + 2)) = k + 2 ∧
      blockItem k v = pad k ++ ("- ".toList ++ c :: t) := by
  obtain ⟨row, rest, hv, c, r, rfl, hc⟩ := rowsOf_begins v
  have hspace : c ≠ ' ' := by
    rintro rfl
    exact absurd hc (by decide)
  have hbehind : block (k + 2) v = pad (k + 2) ++ c :: (r ++ '\n' :: typeset (k + 2) rest) := by
    rw [block_eq_typeset, hv, typeset_cons, List.cons_append]
  refine ⟨fun d => block_add k d v, ⟨?_, ?_, c, r, rest.map (pad k ++ ·), ?_, hspace, ?_⟩,
    c, _, hbehind, hspace, utf8Length_pad _, blockItem_eq hbehind⟩
  · rw [rows_block, block_eq_typeset, typeset]
  · rw [rows_block]
    exact feed_not_mem_padded k v
  · rw [rows_block, hv, List.map_cons]
  · intro row hrow
    obtain ⟨row, -, rfl⟩ := List.mem_map.mp hrow
    exact List.prefix_append _ _

end Scenarist.Yaml

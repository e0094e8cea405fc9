import Scenarist.Proofs.Text.Lines
import Scenarist.Proofs.Yaml.Words
import Scenarist.Proofs.Yaml.Written

/-! # Rows in block layout

A value in block layout is a list of rows with the same blanks before each of them. No row holds a
line feed, whatever the texts and keys of the value.
-/

namespace Scenarist.Yaml

/-! ## The rows of a value -/

/-- The rows of a value behind a dash. -/
def dashed : List Text → List Text
  | [] => []
  | row :: rest => ('-' :: ' ' :: row) :: rest.map fun row => ' ' :: ' ' :: row

mutual

/-- The rows of a value at the margin. -/
def rowsOf : Tree → List Text
  | .mapping entries => if entries.isEmpty then [scalar (.mapping [])] else rowsOfEntries entries
  | .sequence items => if items.isEmpty then [scalar (.sequence [])] else rowsOfItems items
  | .tagged _ v => rowsOf v
  | .null => [scalar .null]
  | .bool b => [scalar (.bool b)]
  | .number n => [scalar (.number n)]
  | .string t => [scalar (.string t)]

def rowsOfItems : List Tree → List Text
  | [] => []
  | v :: r => dashed (rowsOf v) ++ rowsOfItems r

def rowsOfEntries : List (Tree × Tree) → List Text
  | [] => []
  | (key, v) :: r =>
    (if isBlock v then (keyText key ++ [':']) :: (rowsOf v).map fun row => ' ' :: ' ' :: row
      else [keyText key ++ ':' :: ' ' :: scalar v]) ++ rowsOfEntries r

end

/-- The text of rows behind `k` blanks. -/
def typeset (k : Nat) (rows : List Text) : Text := Text.ofRows (rows.map fun row => pad k ++ row)

theorem typeset_cons (k : Nat) (row : Text) (rows : List Text) :
    typeset k (row :: rows) = pad k ++ (row ++ '\n' :: typeset k rows) := by
  rw [typeset, List.map_cons, Text.ofRows_cons, List.append_assoc, typeset]

theorem typeset_append (k : Nat) (a b : List Text) :
    typeset k (a ++ b) = typeset k a ++ typeset k b := by
  rw [typeset, List.map_append, Text.ofRows_append, typeset, typeset]

@[simp] theorem typeset_nil (k : Nat) : typeset k [] = [] := rfl

theorem pad_add_two (k : Nat) (row : Text) : pad (k + 2) ++ row = pad k ++ ' ' :: ' ' :: row := by
  have hpad : pad (k + 2) = pad k ++ pad 2 := List.replicate_append_replicate.symm
  rw [hpad, List.append_assoc]
  rfl

theorem typeset_indented (k : Nat) (rows : List Text) :
    typeset k (rows.map fun row => ' ' :: ' ' :: row) = typeset (k + 2) rows := by
  simp [typeset, pad_add_two, Function.comp_def]

theorem rowsOf_scalar {v : Tree} (h : isBlock v = false) : rowsOf v = [scalar v] := by
  fun_induction isBlock v with
  | case1 entries =>
    obtain rfl : entries = [] := by simpa using h
    rfl
  | case2 items =>
    obtain rfl : items = [] := by simpa using h
    rfl
  | case3 tag v ih => exact ih h
  | case4 v hmapping hsequence htagged =>
    cases v with
    | mapping entries => exact absurd rfl (hmapping entries)
    | sequence items => exact absurd rfl (hsequence items)
    | tagged tag v => exact absurd rfl (htagged tag v)
    | _ => rfl

theorem rowsOf_ne_nil (v : Tree) : ∃ row rest, rowsOf v = row :: rest := by
  match v with
  | .mapping [] | .sequence [] | .null | .bool _ | .number _ | .string _ => exact ⟨_, _, rfl⟩
  | .sequence (u :: _) =>
    obtain ⟨row, rest, hu⟩ := rowsOf_ne_nil u
    exact ⟨_, _, by rw [rowsOf, if_neg (by simp), rowsOfItems, hu, dashed, List.cons_append]⟩
  | .mapping ((key, u) :: r) =>
    rw [rowsOf, if_neg (by simp), rowsOfEntries]
    split <;> exact ⟨_, _, rfl⟩
  | .tagged _ u =>
    rw [rowsOf]
    exact rowsOf_ne_nil u

/-! ## The block -/

theorem itemText_eq {k : Nat} {v : Tree} (h : block (k + 2) v = typeset (k + 2) (rowsOf v)) :
    pad k ++ itemText k v = typeset k (dashed (rowsOf v)) := by
  obtain ⟨row, rest, hv⟩ := rowsOf_ne_nil v
  rw [hv, dashed, typeset_cons, typeset_indented, itemText]
  cases hblock : isBlock v with
  | true =>
    rw [if_pos rfl, linesAt, h, hv, typeset_cons, linesAt_pad]
    rfl
  | false =>
    obtain ⟨rfl, rfl⟩ := List.cons.inj (hv.symm.trans (rowsOf_scalar hblock))
    simp

mutual

/-- The block of a value at any column holds the same rows. -/
theorem block_eq_typeset (k : Nat) (v : Tree) : block k v = typeset k (rowsOf v) := by
  match v with
  | .mapping entries =>
    rw [block, rowsOf]
    split
    · exact (typeset_cons k (scalar (.mapping [])) []).symm
    · exact blockEntries_eq_typeset k entries
  | .sequence items =>
    rw [block, rowsOf]
    split
    · exact (typeset_cons k (scalar (.sequence [])) []).symm
    · exact blockItems_eq_typeset k items
  | .tagged _ v =>
    rw [block, rowsOf]
    exact block_eq_typeset k v
  | .null => exact (typeset_cons k (scalar .null) []).symm
  | .bool _ | .number _ | .string _ =>
      exact (List.append_assoc _ _ _).trans (typeset_cons k _ []).symm

theorem blockItems_eq_typeset (k : Nat) (items : List Tree) :
    blockItems k items = typeset k (rowsOfItems items) := by
  match items with
  | [] => rw [blockItems, rowsOfItems, typeset_nil]
  | v :: r =>
    rw [blockItems_cons, rowsOfItems, typeset_append, ← List.append_assoc,
      itemText_eq (block_eq_typeset (k + 2) v), blockItems_eq_typeset k r]

theorem blockEntries_eq_typeset (k : Nat) (entries : List (Tree × Tree)) :
    blockEntries k entries = typeset k (rowsOfEntries entries) := by
  match entries with
  | [] => rw [blockEntries, rowsOfEntries, typeset_nil]
  | (key, v) :: r =>
    rw [blockEntries_cons, rowsOfEntries, typeset_append, ← blockEntries_eq_typeset k r, entryText,
      valueText, block_eq_typeset (k + 2) v]
    cases isBlock v with
    | true => simp [typeset_cons, typeset_indented]
    | false => simp [typeset_cons]

end

/-! ## No row holds a line feed -/

theorem feed_not_mem_quote (t : Text) : '\n' ∉ Json.quote t := by
  have hchar (c : Char) : '\n' ∉ Json.escapeChar c := by
    rcases escapeChar_cases c with ⟨hc, -, -, hspace⟩ | ⟨e, hc, he, -⟩
    · rw [hc, List.mem_singleton]
      exact Ne.symm (ne_of_space_le hspace (by decide))
    · rw [hc, List.mem_cons, not_or]
      exact ⟨by decide, fun h => absurd (he.inLine _ h).2 (by decide)⟩
  simp [Json.quote_eq, hchar]

theorem feed_not_mem_scalar (v : Tree) : '\n' ∉ scalar v := by
  have hword {w : Text} (h : Layout.isWord w = true) : '\n' ∉ w := by
    intro hmem
    have hall := List.all_eq_true.mp (Layout.isWord_spec h).1
    exact absurd (hall _ hmem) (by decide)
  fun_induction scalar v with
  | case4 n => exact hword (isWord_numberText n)
  | case5 t => exact feed_not_mem_quote t
  | case8 _ _ ih => exact ih
  | _ => decide

theorem feed_not_mem_keyText (key : Tree) : '\n' ∉ keyText key := by
  unfold keyText
  split
  · split
    · rename_i hplain
      intro hmem
      have hall := List.all_eq_true.mp (Layout.plainKey_spec hplain).1
      exact absurd (hall _ hmem) (by decide)
    · exact feed_not_mem_quote _
  · exact feed_not_mem_scalar key

theorem feed_not_mem_indented {rows : List Text} (h : ∀ row ∈ rows, '\n' ∉ row) :
    ∀ row ∈ rows.map fun row => ' ' :: ' ' :: row, '\n' ∉ row := by
  simpa using h

theorem feed_not_mem_dashed {rows : List Text} (h : ∀ row ∈ rows, '\n' ∉ row) :
    ∀ row ∈ dashed rows, '\n' ∉ row := by
  cases rows with
  | nil => simp [dashed]
  | cons row rest => simpa [dashed] using h

mutual

theorem feed_not_mem_rowsOf (v : Tree) : ∀ row ∈ rowsOf v, '\n' ∉ row := by
  match v with
  | .mapping entries =>
    rw [rowsOf]
    split
    · exact List.forall_mem_singleton.mpr (feed_not_mem_scalar _)
    · exact feed_not_mem_rowsOfEntries entries
  | .sequence items =>
    rw [rowsOf]
    split
    · exact List.forall_mem_singleton.mpr (feed_not_mem_scalar _)
    · exact feed_not_mem_rowsOfItems items
  | .tagged _ v =>
    rw [rowsOf]
    exact feed_not_mem_rowsOf v
  | .null | .bool _ | .number _ | .string _ =>
      exact List.forall_mem_singleton.mpr (feed_not_mem_scalar _)

theorem feed_not_mem_rowsOfItems (items : List Tree) : ∀ row ∈ rowsOfItems items, '\n' ∉ row := by
  match items with
  | [] => simp [rowsOfItems]
  | v :: r =>
    rw [rowsOfItems]
    exact List.forall_mem_append.mpr
      ⟨feed_not_mem_dashed (feed_not_mem_rowsOf v), feed_not_mem_rowsOfItems r⟩

theorem feed_not_mem_rowsOfEntries (entries : List (Tree × Tree)) :
    ∀ row ∈ rowsOfEntries entries, '\n' ∉ row := by
  match entries with
  | [] => simp [rowsOfEntries]
  | (key, v) :: r =>
    rw [rowsOfEntries]
    refine List.forall_mem_append.mpr ⟨?_, feed_not_mem_rowsOfEntries r⟩
    cases isBlock v with
    | true =>
      refine List.forall_mem_cons.mpr ⟨?_, feed_not_mem_indented (feed_not_mem_rowsOf v)⟩
      simpa using feed_not_mem_keyText key
    | false => simpa using ⟨feed_not_mem_keyText key, feed_not_mem_scalar v⟩

end

end Scenarist.Yaml

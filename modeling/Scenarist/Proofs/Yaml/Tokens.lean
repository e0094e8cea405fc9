import Scenarist.Proofs.Yaml.Scan

/-! # The tokens of a document

A document in block layout has as many rounds of the scanner as characters, which is always enough.
-/

namespace Scenarist.Yaml

open Layout

/-! ## The length of a text -/

/-- The text is long enough for so many tokens, and every character of it is a spot. -/
structure Covers (t : Text) (n : Nat) : Prop where
  length : n ≤ t.length
  noReturn : ∀ c ∈ t, c ≠ '\r'

namespace Covers

variable {a b : Text} {m n : Nat}

theorem append (ha : Covers a m) (hb : Covers b n) : Covers (a ++ b) (m + n) where
  length := by
    have := ha.length
    have := hb.length
    rw [List.length_append]
    omega
  noReturn c hc := (List.mem_append.mp hc).elim (ha.noReturn c) (hb.noReturn c)

theorem mono (ha : Covers a m) (h : n ≤ m) : Covers a n := ⟨Nat.le_trans h ha.length, ha.noReturn⟩

theorem char {c : Char} (h : c ≠ '\r') : Covers [c] 1 :=
  ⟨Nat.le_refl 1, fun d hd => by rwa [List.mem_singleton.mp hd]⟩

theorem blanks (k : Nat) : Covers (pad k) 0 :=
  ⟨Nat.zero_le _, fun c hc => by rw [List.eq_of_mem_replicate hc]; decide⟩

theorem word {w : Text} (h : isWord w = true) : Covers w 1 := by
  obtain ⟨hall, c, r, rfl, -, -⟩ := isWord_spec h
  exact ⟨by simp, fun d hd => ne_of_word (List.all_eq_true.mp hall d hd) rfl⟩

theorem quote (t : Text) : Covers (Json.quote t) 1 := by
  refine ⟨by simp [quote_eq_escaped], fun c hc => ?_⟩
  rw [quote_eq_escaped, List.mem_cons, List.mem_append, List.mem_singleton, escaped,
    List.mem_flatMap] at hc
  rcases hc with rfl | ⟨d, -, hc⟩ | rfl
  · decide
  · rcases escapeChar_cases d with ⟨hd, -, -, hspace⟩ | ⟨e, hd, he, -⟩
    · rw [hd, List.mem_singleton] at hc
      rw [hc]
      exact ne_of_space_le hspace (by decide)
    · rw [hd, List.mem_cons] at hc
      rcases hc with rfl | hc
      · decide
      · exact (he.inLine c hc).1
  · decide

theorem key (t : Text) : Covers (keyText (.string t)) 1 := by
  cases hplain : isPlainKey t with
  | true =>
    obtain ⟨hall, c, r, rfl, -, -⟩ := plainKey_spec hplain
    rw [keyText_plain hplain]
    exact ⟨by simp, fun d hd => ne_of_word (List.all_eq_true.mp hall d hd) rfl⟩
  | false =>
    rw [keyText_quoted hplain]
    exact quote t

theorem scalar (v : Json) (h : isBlock (.ofJson v) = false) :
    Covers (Yaml.scalar (.ofJson v)) (cost v) := by
  obtain ⟨hnull, hbool, hnumber⟩ := isWord_scalar
  match v with
  | .null => exact word hnull
  | .bool b => exact word (hbool b)
  | .number n => exact word (hnumber n)
  | .string t => exact quote t
  | .array [] => exact (char (by decide)).append (char (c := ']') (by decide))
  | .object [] => exact (char (by decide)).append (char (c := '\x7d') (by decide))
  | .array (v :: r) => exact absurd h (by simp [Tree.ofJson, Tree.ofJsonItems, isBlock])
  | .object (e :: r) => exact absurd h (by simp [Tree.ofJson, Tree.ofJsonMembers, isBlock])

/-! ### Values -/

variable {k : Nat} {v : Json}

theorem item (h : isBlock (.ofJson v) = true → ∀ k, Covers (linesAt k (.ofJson v)) (cost v)) :
    Covers (itemText k (.ofJson v)) (1 + cost v) := by
  have hdash : Covers ['-', ' '] 1 := ⟨by decide, by simp⟩
  refine hdash.append (b := if isBlock (.ofJson v) then _ else _) ?_
  cases hblock : isBlock (.ofJson v) with
  | true => exact h hblock (k + 2)
  | false => exact (scalar v hblock).append ((char (by decide)).mono (Nat.zero_le 1))

theorem entry (key : Text)
    (h : isBlock (.ofJson v) = true → ∀ k, Covers (linesAt k (.ofJson v)) (cost v)) :
    Covers (entryText k (.string key) (.ofJson v)) (2 + cost v) := by
  have hvalue : Covers (valueText k (.ofJson v)) (cost v) := by
    have hfeed : Covers ['\n'] 0 := (char (by decide)).mono (Nat.zero_le 1)
    have hspace : Covers [' '] 0 := (char (by decide)).mono (Nat.zero_le 1)
    rw [valueText]
    cases hblock : isBlock (.ofJson v) with
    | true =>
      have := hfeed.append ((blanks (k + 2)).append (h hblock (k + 2)))
      rw [if_pos rfl, block_eq _ _ hblock]
      simpa using this
    | false => simpa using hspace.append ((scalar v hblock).append hfeed)
  have := (Covers.key key).append ((char (c := ':') (by decide)).append hvalue)
  rw [← Nat.add_assoc] at this
  exact this

theorem items {items : List Json}
    (h : ∀ v ∈ items, isBlock (.ofJson v) = true → ∀ k, Covers (linesAt k (.ofJson v)) (cost v)) :
    Covers (blockItems k (Tree.ofJsonItems items)) (costItems items) := by
  induction items with
  | nil => exact ⟨Nat.le_refl 0, by simp [Tree.ofJsonItems, blockItems]⟩
  | cons v r ih =>
    have := (blanks k).append
        ((item (k := k) (h v (by simp))).append (ih fun u hu => h u (by simp [hu])))
    rw [Tree.ofJsonItems, blockItems_cons, costItems]
    simpa using this

theorem members {members : List (Text × Json)}
    (h : ∀ e ∈ members, isBlock (.ofJson e.2) = true →
      ∀ k, Covers (linesAt k (.ofJson e.2)) (cost e.2)) :
    Covers (blockEntries k (Tree.ofJsonMembers members)) (costMembers members) := by
  induction members with
  | nil => exact ⟨Nat.le_refl 0, by simp [Tree.ofJsonMembers, blockEntries]⟩
  | cons e r ih =>
    have := (blanks k).append
        ((entry (k := k) e.1 (h e (by simp))).append (ih fun u hu => h u (by simp [hu])))
    rw [Tree.ofJsonMembers, blockEntries_cons, costMembers]
    simpa using this

theorem lines (v : Json) :
    isBlock (.ofJson v) = true → ∀ k, Covers (linesAt k (.ofJson v)) (cost v) := by
  refine isBlock_induct (motive := fun v => ∀ k, Covers (linesAt k (.ofJson v)) (cost v))
    (fun v r ih k => ?_)
    (fun e r ih k => ?_) v
  · rw [Tree.ofJson, Tree.ofJsonItems, linesAt_sequence]
    exact (item (ih v (by simp))).append (Covers.items fun u hu => ih u (by simp [hu]))
  · rw [Tree.ofJson, Tree.ofJsonMembers, linesAt_mapping]
    exact (entry e.1 (ih e (by simp))).append (Covers.members fun u hu => ih u (by simp [hu]))

end Covers

/-! ## The document -/

theorem length_spots {t : Text} (h : ∀ c ∈ t, c ≠ '\r') (p : Place) :
    (spots p t).length = t.length + 1 := by
  induction t generalizing p with
  | nil => rw [spots_nil]; rfl
  | cons c t ih =>
    rw [spots_cons p (h c (by simp)), List.length_cons, ih fun d hd => h d (by simp [hd]),
      List.length_cons]

/-! ### Any value alone -/

theorem block_scalar {v : Json} (h : isBlock (.ofJson v) = false) :
    block 0 (.ofJson v) = scalar (.ofJson v) ++ ['\n'] := by
  match v with
  | .null => rfl
  | .bool _ => rfl
  | .number _ => rfl
  | .string _ => rfl
  | .array [] => rfl
  | .object [] => rfl
  | .array (_ :: _) => exact absurd h (by simp [Tree.ofJson, Tree.ofJsonItems, isBlock])
  | .object (_ :: _) => exact absurd h (by simp [Tree.ofJson, Tree.ofJsonMembers, isBlock])

theorem covers_block (v : Json) : Covers (block 0 (.ofJson v)) (cost v) := by
  cases h : isBlock (.ofJson v) with
  | true => exact Covers.lines v h 0
  | false =>
    have hfeed : Covers ['\n'] 0 := (Covers.char (by decide)).mono (Nat.zero_le 1)
    rw [block_scalar h]
    exact (Covers.scalar v h).append hfeed

theorem block_start (v : Json) : ∃ c r, block 0 (.ofJson v) = c :: r ∧ isTokenStart c = true := by
  have hword : ∀ {w : Text}, isWord w = true → ∃ c r, w ++ ['\n'] = c :: r ∧
      isTokenStart c = true := by
    intro w hw
    obtain ⟨-, c, r, rfl, hc, -⟩ := isWord_spec hw
    exact ⟨c, r ++ ['\n'], rfl, isTokenStart_word hc⟩
  obtain ⟨hnull, hbool, hnumber⟩ := isWord_scalar
  match v with
  | .null => exact hword hnull
  | .bool b => exact hword (hbool b)
  | .number n => exact hword (hnumber n)
  | .string t => exact ⟨'"', _, rfl, rfl⟩
  | .array [] => exact ⟨'[', _, rfl, rfl⟩
  | .object [] => exact ⟨'\x7b', _, rfl, rfl⟩
  | .array (_ :: _) => exact ⟨'-', _, rfl, rfl⟩
  | .object ((key, v) :: r) =>
    obtain ⟨c, t, hkey, hc⟩ := keyText_start key
    have hlines := linesAt_mapping 0 (.string key) (.ofJson v) (Tree.ofJsonMembers r)
    rw [entryText, hkey] at hlines
    exact ⟨c, _, hlines, hc⟩

theorem scansBlock (v : Json) (n : Nat) :
    Layout.tokens? (n + 1 + cost v) .start (spots .start (block 0 (.ofJson v))) =
      (rereadValue? v).map tokensOf := by
  have hend : ∀ (p : Place) (w : Json),
      Layout.tokens? (n + 1) (line ((tokensOf w).reverse ++ []) []) (spots p []) =
        some (tokensOf w) := by
    intro p w
    rw [tokens?_end]
    simp [ends]
  have hscan : ∃ p, Layout.tokens? (n + 1 + cost v) .start (spots .start (block 0 (.ofJson v))) =
      (rereadValue? v).bind fun w =>
        Layout.tokens? (n + 1) (line ((tokensOf w).reverse ++ []) []) (spots p []) := by
    cases h : isBlock (.ofJson v) with
    | true =>
      have hlines := scansLines v (n + 1) 0 [] [] .start [] h (by simp) rfl .stop
      rw [List.append_nil] at hlines
      exact ⟨_, hlines⟩
    | false =>
      rw [block_scalar h]
      exact ⟨_, tokens?_scalar (n + 1) true (by simp) v h .stop⟩
  obtain ⟨p, hp⟩ := hscan
  rw [hp]
  simp only [hend]
  cases rereadValue? v <;> rfl

/-! ### The text -/

/-- The tokens of a document are those of what is read of its value. -/
theorem tokens?_block (v : Json) :
    tokens? (block 0 (.ofJson v)) =
      if (block 0 (.ofJson v)).all isAllowed then (rereadValue? v).map tokensOf else none := by
  have hcovers := covers_block v
  obtain ⟨n, hn⟩ : ∃ n, (spots .start (block 0 (.ofJson v))).length + 1 = n + 1 + cost v := by
    have hlength := length_spots hcovers.noReturn .start
    have := hcovers.length
    exact ⟨(block 0 (.ofJson v)).length + 1 - cost v, by omega⟩
  obtain ⟨c, r, hstart, hc⟩ := block_start v
  rw [tokens?]
  split
  · change Layout.tokens? ((spots .start (block 0 (.ofJson v))).length + 1) .start
      (spots .start _) = _
    rw [hn]
    exact scansBlock v n
  · rfl
  · intro r' hr
    rw [hstart] at hr
    obtain ⟨rfl, -⟩ := List.cons.inj hr
    exact absurd hc (by decide)

end Scenarist.Yaml

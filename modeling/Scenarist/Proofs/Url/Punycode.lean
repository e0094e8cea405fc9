import Mathlib.Tactic.Ring
import Scenarist.Proofs.Text.Digits
import Scenarist.Proofs.Text.Pieces
import Scenarist.Url.Punycode

/-! # Punycode read back

The label that was encoded is decoded again. While the encoder passes the label once for each code
point, the decoder has the characters that were placed so far, and the number that is to be written
next is the number of its steps from there to the character the encoder is at.
-/

namespace Scenarist.Punycode

theorem isAscii_iff (c : Char) : isAscii c = true ↔ c.toNat < 0x80 := decide_eq_true_iff

/-! ## Digits -/

theorem digitValue?_digitChar {d : Nat} (h : d < 36) : digitValue? (digitChar d) = some d := by
  have all : ∀ d < 36, digitValue? (digitChar d) = some d := by decide
  exact all d h

theorem isAlphanum_digitChar {d : Nat} (h : d < 36) :
    (digitChar d).isAlphanum = true ∧ (digitChar d).isUpper = false := by
  have all : ∀ d < 36, (digitChar d).isAlphanum = true ∧ (digitChar d).isUpper = false := by decide
  exact all d h

/-- A letter that is not a capital, or a figure. -/
def IsDigit (c : Char) : Prop := ∃ d < 36, c = digitChar d

theorem IsDigit.ne {c d : Char} (h : IsDigit c) (hd : d.isAlphanum = false) : c ≠ d := by
  obtain ⟨n, hn, rfl⟩ := h
  exact Text.ne_of_alphanum (isAlphanum_digitChar hn).1 hd

/-! ## Numbers -/

theorem numberDigits_ne_nil (bias place n : Nat) : numberDigits bias place n ≠ [] := by
  rw [numberDigits]
  split <;> exact List.cons_ne_nil _ _

theorem isDigit_of_mem_numberDigits {bias place n : Nat} {c : Char}
    (h : c ∈ numberDigits bias place n) : IsDigit c := by
  induction n using Nat.strongRecOn generalizing place with
  | ind n ih =>
    have hpos := threshold_pos place bias
    have hle := threshold_le place bias
    rw [numberDigits] at h
    split at h
    · exact ⟨n, by omega, List.mem_singleton.mp h⟩
    · rename_i hn
      have hdigit := Nat.mod_lt (n - threshold place bias)
        (show 0 < 36 - threshold place bias by omega)
      rcases List.mem_cons.mp h with rfl | h
      · exact ⟨_, by omega, rfl⟩
      · refine ih _ ?_ h
        exact Nat.lt_of_le_of_lt (Nat.div_le_self _ _) (by omega)

theorem readNumber?_digits (bias place weight i n : Nat) (r : Text) :
    readNumber? bias place weight i (numberDigits bias place n ++ r) =
      some (i + n * weight, r) := by
  induction n using Nat.strongRecOn generalizing place weight i with
  | ind n ih =>
    have hpos := threshold_pos place bias
    have hle := threshold_le place bias
    generalize ht : threshold place bias = t at hpos hle
    rw [numberDigits]
    simp only [ht]
    split
    · rename_i hn
      simp [readNumber?, digitValue?_digitChar (show n < 36 by omega), ht, hn]
    · rename_i hn
      have hdigit := Nat.mod_lt (n - t) (show 0 < 36 - t by omega)
      have hsmaller : (n - t) / (36 - t) < n :=
        Nat.lt_of_le_of_lt (Nat.div_le_self _ _) (by omega)
      have hkept : ¬t + (n - t) % (36 - t) < t := by omega
      rw [List.cons_append, readNumber?, digitValue?_digitChar (by omega), Option.bind_eq_bind,
        Option.bind_some]
      simp only [ht, if_neg hkept, ih _ hsmaller]
      -- The digit and what the others write make up the number again.
      have hsum : t + (n - t) % (36 - t) + (36 - t) * ((n - t) / (36 - t)) = n := by
        have := Nat.mod_add_div (n - t) (36 - t)
        omega
      have hvalue : i + (t + (n - t) % (36 - t)) * weight +
          (n - t) / (36 - t) * (weight * (36 - t)) = i + n * weight := by
        calc _ = i + (t + (n - t) % (36 - t) + (36 - t) * ((n - t) / (36 - t))) * weight := by ring
          _ = _ := by rw [hsum]
      rw [hvalue]

/-! ## Characters below a code point -/

def below (m : Nat) (t : Text) : Text := t.filter (·.toNat < m)

section

variable {m : Nat} {c : Char}

@[simp]
theorem below_nil (m : Nat) : below m [] = [] := rfl

@[simp]
theorem below_append (m : Nat) (s t : Text) : below m (s ++ t) = below m s ++ below m t :=
  List.filter_append ..

theorem below_cons_of_lt (h : c.toNat < m) (t : Text) : below m (c :: t) = c :: below m t :=
  List.filter_cons_of_pos (by simpa using h)

theorem below_cons_of_le (h : m ≤ c.toNat) (t : Text) : below m (c :: t) = below m t :=
  List.filter_cons_of_neg (by simpa using h)

theorem below_eq_self {t : Text} (h : ∀ c ∈ t, c.toNat < m) : below m t = t :=
  List.filter_eq_self.mpr fun c hc => decide_eq_true (h c hc)

theorem below_congr {k : Nat} {t : Text} (hk : k ≤ m) (h : ∀ c ∈ t, k ≤ c.toNat → m ≤ c.toNat) :
    below m t = below k t := by
  refine List.filter_congr fun c hc => decide_eq_decide.mpr ⟨fun hlt => ?_, fun hlt => by omega⟩
  by_contra hge
  have := h c hc (by omega)
  omega

end

/-! ## One character -/

theorem readPlaces?_number {label : Text} {n i bias delta : Nat} {c : Char}
    (hc : n + (i + delta) / (label.length + 1) = c.toNat) (fuel : Nat) (r : Text) :
    readPlaces? (fuel + 1) label n i bias (numberDigits bias 36 delta ++ r) =
      readPlaces? fuel
        (label.take ((i + delta) % (label.length + 1)) ++
          c :: label.drop ((i + delta) % (label.length + 1)))
        c.toNat ((i + delta) % (label.length + 1) + 1)
        (adapt delta (label.length + 1) (i == 0)) r := by
  obtain ⟨d, digits, hdigits⟩ := List.exists_cons_of_ne_nil (numberDigits_ne_nil bias 36 delta)
  have hread := readNumber?_digits bias 36 1 i delta r
  rw [hdigits, List.cons_append] at hread ⊢
  rw [readPlaces?, hread]
  · simp only [Nat.mul_one, Option.bind_eq_bind, Option.bind_some, hc, Text.charOfNat?_toNat,
      Nat.add_sub_cancel_left]
  · simp

/-- The decoder comes to the given state when it has read what was written, whatever stands
behind it. -/
def Reaches (plain written label : Text) (n i bias : Nat) : Prop :=
  ∀ r fuel, (written ++ r).length ≤ fuel → ∃ fuel', r.length ≤ fuel' ∧
    readPlaces? fuel plain 0x80 0 72 (written ++ r) = readPlaces? fuel' label n i bias r

theorem Reaches.number {plain written before after : Text} {n i bias delta : Nat} {c : Char}
    (h : Reaches plain written (before ++ after) n i bias)
    (hpoint : n + (i + delta) / ((before ++ after).length + 1) = c.toNat)
    (hplace : (i + delta) % ((before ++ after).length + 1) = before.length) :
    Reaches plain (written ++ numberDigits bias 36 delta) (before ++ c :: after) c.toNat
      (before.length + 1) (adapt delta ((before ++ after).length + 1) (i == 0)) := by
  intro r fuel hfuel
  rw [List.append_assoc] at hfuel ⊢
  obtain ⟨fuel', hfuel', heq⟩ := h _ fuel hfuel
  have hpos := List.length_pos_iff.mpr (numberDigits_ne_nil bias 36 delta)
  rw [List.length_append] at hfuel'
  obtain ⟨fuel', rfl⟩ : ∃ k, fuel' = k + 1 := ⟨fuel' - 1, by omega⟩
  refine ⟨fuel', by omega, heq.trans ?_⟩
  rw [readPlaces?_number hpoint, hplace, List.take_left, List.drop_left]

/-- The encoder is between `done` and `rest` while it places the characters `m`. The decoder has
those before it and in its last round stands at the code point `n` and the place `i`. -/
structure Writing.Agrees (plain : Text) (m : Nat) (done rest : Text) (w : Writing) (n i : Nat) :
    Prop where
  reaches : Reaches plain w.written (below (m + 1) done ++ below m rest) n i w.bias
  count : w.count = (below (m + 1) done ++ below m rest).length
  started : plain.length ≤ w.count
  reached : n ≤ m
  steps : i + w.delta = (m - n) * (w.count + 1) + (below (m + 1) done).length
  first : i = 0 ↔ w.count = plain.length
  digits : ∀ c ∈ w.written, IsDigit c

section

variable {plain label done rest : Text} {m n i : Nat} {w : Writing} {c : Char}

theorem Writing.Agrees.place (h : w.Agrees plain m done rest n i) :
    n + (i + w.delta) / (w.count + 1) = m ∧
      (i + w.delta) % (w.count + 1) = (below (m + 1) done).length := by
  have hcount := h.count
  have hreached := h.reached
  rw [List.length_append] at hcount
  have hlt : (below (m + 1) done).length < w.count + 1 := by omega
  rw [h.steps, Nat.mul_comm, Nat.mul_add_div (Nat.succ_pos _), Nat.mul_add_mod,
    Nat.mod_eq_of_lt hlt, Nat.div_eq_of_lt hlt]
  omega

theorem Writing.Agrees.pass_placed (h : w.Agrees plain c.toNat done (c :: rest) n i) :
    (w.pass plain.length c.toNat c).Agrees plain c.toNat (done ++ [c]) rest c.toNat
      ((below (c.toNat + 1) done).length + 1) := by
  have hstarted := h.started
  have hplace := h.place
  have hreaches := h.reaches
  have hcount := h.count
  have hfirst : (i == 0) = (w.count == plain.length) := by
    rw [Bool.eq_iff_iff, beq_iff_eq, beq_iff_eq]
    exact h.first
  have hdone : below (c.toNat + 1) [c] = [c] := below_cons_of_lt (Nat.lt_succ_self _) []
  rw [below_cons_of_le (Nat.le_refl _)] at hreaches hcount
  rw [hcount] at hplace
  have hnext := hreaches.number hplace.1 hplace.2
  rw [← hcount, hfirst] at hnext
  rw [pass, if_neg (Nat.lt_irrefl _), if_pos rfl]
  constructor
  case reaches => simpa [hdone] using hnext
  case count => simp [hdone, hcount, Nat.add_assoc, Nat.add_comm]
  case started => exact Nat.le_succ_of_le hstarted
  case reached => exact Nat.le_refl _
  case steps => simp [hdone]
  case first =>
    have hmore : w.count + 1 ≠ plain.length := by omega
    simp [hmore]
  case digits =>
    intro d hd
    rcases List.mem_append.mp hd with hd | hd
    · exact h.digits d hd
    · exact isDigit_of_mem_numberDigits hd

theorem Writing.Agrees.pass (h : w.Agrees plain m done (c :: rest) n i) :
    ∃ n i, (w.pass plain.length m c).Agrees plain m (done ++ [c]) rest n i := by
  have hreaches := h.reaches
  have hcount := h.count
  have hsteps := h.steps
  rcases Nat.lt_trichotomy c.toNat m with hc | rfl | hc
  · -- It has its place already, so it is one step more.
    have hdone : below (m + 1) [c] = [c] := below_cons_of_lt (by omega) []
    rw [below_cons_of_lt hc] at hreaches hcount
    rw [Writing.pass, if_pos hc]
    refine ⟨n, i, ?_, ?_, h.started, h.reached, ?_, h.first, h.digits⟩
    · simpa [hdone] using hreaches
    · simpa [hdone] using hcount
    · simp only [below_append, hdone, List.length_append, List.length_singleton]
      omega
  · exact ⟨_, _, h.pass_placed⟩
  · -- Its turn is later.
    have hdone : below (m + 1) (done ++ [c]) = below (m + 1) done := by
      rw [below_append, below_cons_of_le (by omega), below_nil, List.append_nil]
    rw [below_cons_of_le (by omega), ← hdone] at hreaches hcount
    rw [← hdone] at hsteps
    rw [Writing.pass, if_neg (by omega), if_neg (by omega)]
    exact ⟨n, i, hreaches, hcount, h.started, h.reached, hsteps, h.first, h.digits⟩

/-! ## One code point -/

theorem Writing.Agrees.pass_all (h : w.Agrees plain m done rest n i) :
    ∃ n i, (rest.foldl (Writing.pass plain.length m) w).Agrees plain m (done ++ rest) [] n i := by
  induction rest generalizing done w n i with
  | nil => exact ⟨n, i, by simpa using h⟩
  | cons c rest ih =>
    obtain ⟨n, i, h⟩ := h.pass
    simpa using ih h

/-- At the end of the label one step leads to its start, at the next code point. -/
theorem Writing.Agrees.next (h : w.Agrees plain m label [] n i) :
    Agrees plain (m + 1) [] label { w with delta := w.delta + 1 } n i := by
  have hreaches := h.reaches
  have hcount := h.count
  have hsteps := h.steps
  have hreached := h.reached
  rw [below_nil, List.append_nil] at hreaches hcount
  refine ⟨hreaches, hcount, h.started, by omega, ?_, h.first, h.digits⟩
  rw [below_nil, List.length_nil, Nat.succ_sub hreached, Nat.succ_mul]
  dsimp only
  omega

/-- No character has a code point between, so all the rounds between are steps. -/
theorem Writing.Agrees.skip {k : Nat} (h : w.Agrees plain k [] label n i) (hk : k ≤ m)
    (hnone : ∀ c ∈ label, k ≤ c.toNat → m ≤ c.toNat) :
    Agrees plain m [] label { w with delta := w.delta + (m - k) * (w.count + 1) } n i := by
  have hsteps := h.steps
  have hreached := h.reached
  have hbelow := below_congr hk hnone
  have hreaches := h.reaches
  have hcount := h.count
  rw [below_nil, List.nil_append, ← hbelow] at hreaches hcount
  refine ⟨hreaches, hcount, h.started, by omega, ?_, h.first, h.digits⟩
  have hsum : (m - n) * (w.count + 1) = (k - n) * (w.count + 1) + (m - k) * (w.count + 1) := by
    rw [← Nat.add_mul]
    congr 1
    omega
  rw [below_nil, List.length_nil] at hsteps ⊢
  dsimp only
  omega

/-! ## All code points -/

theorem Writing.Agrees.place_all {k : Nat} {others : List Nat} (h : w.Agrees plain k [] label n i)
    (hsorted : others.Pairwise (· < ·)) (hstart : ∀ m ∈ others, k ≤ m)
    (hothers : ∀ c ∈ label, k ≤ c.toNat → c.toNat ∈ others) :
    ∃ n i bias, Reaches plain (w.place label plain.length k others).written label n i bias ∧
      ∀ c ∈ (w.place label plain.length k others).written, IsDigit c := by
  -- One round for each code point: skip to it, pass the label, and go on from the next one.
  induction others generalizing k w n i with
  | nil =>
    have hall : below k label = label := by
      refine below_eq_self fun c hc => ?_
      by_contra hge
      cases hothers c hc (by omega)
    have hreaches := h.reaches
    rw [below_nil, List.nil_append, hall] at hreaches
    exact ⟨n, i, w.bias, hreaches, h.digits⟩
  | cons m others ih =>
    obtain ⟨hleast, hsorted⟩ := List.pairwise_cons.mp hsorted
    have hm : k ≤ m := hstart m List.mem_cons_self
    have hnone : ∀ c ∈ label, k ≤ c.toNat → m ≤ c.toNat := by
      intro c hc hge
      rcases List.mem_cons.mp (hothers c hc hge) with heq | hmem
      · exact Nat.le_of_eq heq.symm
      · exact Nat.le_of_lt (hleast _ hmem)
    obtain ⟨n, i, hpassed⟩ := (h.skip hm hnone).pass_all
    refine ih hpassed.next hsorted (fun x hx => hleast x hx) fun c hc hge => ?_
    rcases List.mem_cons.mp (hothers c hc (by omega)) with heq | hmem
    · omega
    · exact hmem

end

/-! ## Ascending numbers -/

theorem mem_insertOnce {n m : Nat} {l : List Nat} : m ∈ insertOnce n l ↔ m = n ∨ m ∈ l := by
  induction l with
  | nil => simp [insertOnce]
  | cons k l ih =>
    rw [insertOnce]
    split
    · exact List.mem_cons
    split
    · rename_i heq
      simp [heq]
    · simp only [List.mem_cons, ih]
      tauto

theorem pairwise_insertOnce {n : Nat} {l : List Nat} (h : l.Pairwise (· < ·)) :
    (insertOnce n l).Pairwise (· < ·) := by
  induction l with
  | nil => exact List.pairwise_singleton _ _
  | cons k l ih =>
    obtain ⟨hleast, hrest⟩ := List.pairwise_cons.mp h
    rw [insertOnce]
    split
    · rename_i hn
      refine List.pairwise_cons.mpr ⟨fun m hm => ?_, h⟩
      rcases List.mem_cons.mp hm with rfl | hm
      · exact hn
      · exact Nat.lt_trans hn (hleast m hm)
    split
    · exact h
    · refine List.pairwise_cons.mpr ⟨fun m hm => ?_, ih hrest⟩
      rcases mem_insertOnce.mp hm with rfl | hm
      · omega
      · exact hleast m hm

theorem mem_foldr_insertOnce {t : Text} {m : Nat} :
    m ∈ t.foldr (fun c found => insertOnce c.toNat found) [] ↔ ∃ c ∈ t, m = c.toNat := by
  induction t with
  | nil => simp
  | cons c t ih => simp [mem_insertOnce, ih]

theorem pairwise_foldr_insertOnce (t : Text) :
    (t.foldr (fun c found => insertOnce c.toNat found) []).Pairwise (· < ·) := by
  induction t with
  | nil => exact List.Pairwise.nil
  | cons c t ih => exact pairwise_insertOnce ih

/-! ## Labels -/

theorem exists_encode (label : Text) :
    ∃ written, encode label =
        (if label.filter isAscii = [] then [] else label.filter isAscii ++ ['-']) ++ written ∧
      (∃ n i bias, Reaches (label.filter isAscii) written label n i bias) ∧
        ∀ c ∈ written, IsDigit c := by
  have hstart : Writing.Agrees (label.filter isAscii) 0x80 [] label
      ⟨[], 0, 72, (label.filter isAscii).length⟩ 0x80 0 := by
    refine ⟨?_, rfl, Nat.le_refl _, Nat.le_refl _, by simp, by simp, by simp⟩
    exact fun r fuel hfuel => ⟨fuel, hfuel, rfl⟩
  have hleast :
      ∀ m ∈ (label.filter (!isAscii ·)).foldr (fun c found => insertOnce c.toNat found) [],
      0x80 ≤ m := by
    intro m hm
    obtain ⟨c, hc, rfl⟩ := mem_foldr_insertOnce.mp hm
    simpa [isAscii] using (List.mem_filter.mp hc).2
  have hothers : ∀ c ∈ label, 0x80 ≤ c.toNat →
      c.toNat ∈ (label.filter (!isAscii ·)).foldr (fun c found => insertOnce c.toNat found) [] := by
    intro c hc hge
    exact mem_foldr_insertOnce.mpr ⟨c, List.mem_filter.mpr ⟨hc, by simpa [isAscii] using hge⟩, rfl⟩
  obtain ⟨n, i, bias, hreaches, hdigits⟩ :=
    hstart.place_all (pairwise_foldr_insertOnce _) hleast hothers
  exact ⟨_, rfl, ⟨n, i, bias, hreaches⟩, hdigits⟩

/-- Every label is decoded from what it is encoded to. -/
theorem decode?_encode (label : Text) : decode? (encode label) = some label := by
  obtain ⟨written, hencode, ⟨n, i, bias, hreaches⟩, hdigits⟩ := exists_encode label
  have hdash : '-' ∉ written := fun h => (hdigits _ h).ne (by decide) rfl
  have hplain : (label.filter isAscii).all isAscii = true :=
    List.all_eq_true.mpr fun c hc => (List.mem_filter.mp hc).2
  have hread : readPlaces? written.length (label.filter isAscii) 0x80 0 72 written =
      some label := by
    obtain ⟨fuel, -, heq⟩ := hreaches [] written.length (by simp)
    rw [List.append_nil] at heq
    rw [heq, readPlaces?]
  rw [hencode, decode?]
  cases hstart : label.filter isAscii with
  | nil =>
    rw [hstart] at hread
    simp only [if_true, List.nil_append, Text.splitLast?_of_not_mem hdash]
    exact hread
  | cons c plain =>
    rw [hstart] at hread hplain
    rw [if_neg (List.cons_ne_nil _ _), List.append_assoc, List.singleton_append,
      Text.splitLast?_append _ hdash]
    simp only [hplain, if_true, hread]

example : encode "bücher" = "bcher-kva" := by decide +kernel

theorem mem_encode {label : Text} {c : Char} (h : c ∈ encode label) :
    (c ∈ label ∧ isAscii c = true) ∨ c = '-' ∨ IsDigit c := by
  obtain ⟨written, hencode, -, hdigits⟩ := exists_encode label
  rw [hencode] at h
  rcases List.mem_append.mp h with h | h
  · split at h
    · cases h
    · rcases List.mem_append.mp h with h | h
      · exact .inl (List.mem_filter.mp h)
      · exact .inr (.inl (List.mem_singleton.mp h))
  · exact .inr (.inr (hdigits c h))

end Scenarist.Punycode

import Scenarist.Pattern.Expr
import Mathlib.Data.List.Basic

/-! # What an expression matches

An expression matches a stretch of a text, with regard to the characters on both sides of it. The
search goes character by character over what is left of the expression; it finds a match exactly
when some stretch of the text is one.
-/

namespace Scenarist.Pattern

/-! ## Stretches -/

/-- The character before what follows `m`, when `before` stands before `m`. -/
def lastOr (before : Option Char) (m : Text) : Option Char := m.getLast?.or before

/-- The character behind what precedes `m`, when `behind` stands behind `m`. -/
def headOr (m : Text) (behind : Option Char) : Option Char := m.head?.or behind

@[simp] theorem lastOr_nil (before : Option Char) : lastOr before [] = before := rfl

@[simp] theorem lastOr_none (m : Text) : lastOr none m = m.getLast? := Option.or_none

@[simp] theorem lastOr_cons (before : Option Char) (c : Char) (m : Text) :
    lastOr before (c :: m) = lastOr (some c) m := by
  cases h : m.getLast? <;> simp [lastOr, List.getLast?_cons, h]

@[simp] theorem headOr_nil (behind : Option Char) : headOr [] behind = behind := rfl

@[simp] theorem headOr_cons (c : Char) (m : Text) (behind : Option Char) :
    headOr (c :: m) behind = some c := rfl

/-- `n` stretches one after the other. -/
def Rounds (P : Option Char → Text → Option Char → Prop) :
    Nat → Option Char → Text → Option Char → Prop
  | 0, _, m, _ => m = []
  | n + 1, before, m, behind =>
    ∃ m₁ m₂, m = m₁ ++ m₂ ∧ P before m₁ (headOr m₂ behind) ∧ Rounds P n (lastOr before m₁) m₂ behind

/-- The expression matches the stretch `m` between the characters `before` and `behind`. -/
def Expr.Matches : Expr → Option Char → Text → Option Char → Prop
  | .empty, _, m, _ => m = []
  | .set s, _, m, _ => ∃ c, m = [c] ∧ s.contains c = true
  | .look l, before, m, behind => m = [] ∧ l.holds ⟨before, behind⟩ = true
  | .seq a b, before, m, behind =>
    ∃ m₁ m₂, m = m₁ ++ m₂ ∧ a.Matches before m₁ (headOr m₂ behind) ∧
      b.Matches (lastOr before m₁) m₂ behind
  | .alt a b, before, m, behind => a.Matches before m behind ∨ b.Matches before m behind
  | .rep e least most, before, m, behind =>
    ∃ n, least ≤ n ∧ (∀ k ∈ most, n ≤ k) ∧ Rounds e.Matches n before m behind

/-- No repetition asks for more rounds than it allows. -/
def Expr.IsBounded : Expr → Prop
  | .empty | .set _ | .look _ => True
  | .seq a b | .alt a b => a.IsBounded ∧ b.IsBounded
  | .rep e least most => e.IsBounded ∧ ∀ k ∈ most, least ≤ k

theorem exists_cut_cons {c : Char} {m : Text} {Q : Text → Text → Prop} :
    (∃ m₁ m₂, c :: m = m₁ ++ m₂ ∧ Q m₁ m₂) ↔
      Q [] (c :: m) ∨ ∃ m₁ m₂, m = m₁ ++ m₂ ∧ Q (c :: m₁) m₂ := by
  constructor
  · rintro ⟨m₁, m₂, h, hq⟩
    cases m₁ with
    | nil => exact .inl (h ▸ hq)
    | cons d m₁ =>
      obtain ⟨rfl, rfl⟩ := List.cons.inj h
      exact .inr ⟨m₁, m₂, rfl, hq⟩
  · rintro (hq | ⟨m₁, m₂, rfl, hq⟩)
    · exact ⟨[], _, rfl, hq⟩
    · exact ⟨c :: m₁, m₂, rfl, hq⟩

variable {P : Option Char → Text → Option Char → Prop} {before behind : Option Char} {c : Char}
    {m t : Text} {e a b : Expr}

theorem rounds_nil {n : Nat} : Rounds P n before [] behind ↔ n = 0 ∨ P before [] behind := by
  induction n with
  | zero => simp [Rounds]
  | succ n ih =>
    constructor
    · rintro ⟨m₁, m₂, h, hfirst, -⟩
      obtain ⟨rfl, rfl⟩ := List.append_eq_nil_iff.mp h.symm
      exact .inr hfirst
    · rintro (h | h)
      · cases h
      · exact ⟨[], [], rfl, h, ih.mpr (.inr h)⟩

theorem rounds_cons {n : Nat} : Rounds P n before (c :: m) behind ↔
    ∃ i r, n = i + 1 + r ∧ (i = 0 ∨ P before [] (some c)) ∧
      ∃ m₁ m₂, m = m₁ ++ m₂ ∧ P before (c :: m₁) (headOr m₂ behind) ∧
        Rounds P r (lastOr (some c) m₁) m₂ behind := by
  induction n with
  | zero =>
    simp only [Rounds]
    constructor
    · rintro ⟨⟩
    · rintro ⟨i, r, h, -⟩
      omega
  | succ n ih =>
    rw [Rounds, exists_cut_cons, lastOr_nil, headOr_cons, ih]
    simp only [lastOr_cons]
    constructor
    · rintro (⟨hempty, i, r, rfl, -, hrest⟩ | ⟨m₁, m₂, rfl, hfirst, hrest⟩)
      · exact ⟨i + 1, r, by omega, .inr hempty, hrest⟩
      · exact ⟨0, n, by omega, .inl rfl, m₁, m₂, rfl, hfirst, hrest⟩
    · rintro ⟨i, r, hn, hempty, hrest⟩
      cases i with
      | zero =>
        obtain rfl : n = r := by omega
        exact .inr hrest
      | succ i =>
        have hempty : P before [] (some c) := hempty.resolve_left (by omega)
        exact .inl ⟨hempty, i, r, by omega, .inr hempty, hrest⟩

namespace Expr

/-! ## The empty stretch -/

theorem matches_nil (h : e.IsBounded) :
    e.Matches before [] behind ↔ e.isEmptyAt ⟨before, behind⟩ = true := by
  induction e generalizing before behind with
  | empty => simp [Matches, isEmptyAt]
  | set s => simp [Matches, isEmptyAt]
  | look l => simp [Matches, isEmptyAt]
  | seq a b iha ihb =>
    simp only [isEmptyAt, Bool.and_eq_true, ← iha h.1, ← ihb h.2, Matches]
    constructor
    · rintro ⟨m₁, m₂, heq, ha, hb⟩
      obtain ⟨rfl, rfl⟩ := List.append_eq_nil_iff.mp heq.symm
      exact ⟨ha, hb⟩
    · rintro ⟨ha, hb⟩
      exact ⟨[], [], rfl, ha, hb⟩
  | alt a b iha ihb => simp [Matches, isEmptyAt, iha h.1, ihb h.2]
  | rep e least most ih =>
    simp only [isEmptyAt, Bool.or_eq_true, beq_iff_eq, ← ih h.1, Matches, rounds_nil]
    constructor
    · rintro ⟨n, hleast, -, rfl | hempty⟩
      · exact .inl (by omega)
      · exact .inr hempty
    · rintro (rfl | hempty)
      · exact ⟨0, Nat.le_refl 0, fun _ _ => Nat.zero_le _, .inl rfl⟩
      · exact ⟨least, Nat.le_refl least, h.2, .inr hempty⟩

/-! ## Taking a character -/

theorem matches_followedBy :
    (a.followedBy b).Matches before m behind ↔ (seq a b).Matches before m behind := by
  unfold followedBy
  split
  · simp [Matches]
  · split
    · constructor
      · intro h
        exact ⟨m, [], by simp, h, rfl⟩
      · rintro ⟨m₁, m₂, rfl, h, rfl⟩
        simpa using h
    · rfl

theorem IsBounded.followedBy (ha : a.IsBounded) (hb : b.IsBounded) :
    (a.followedBy b).IsBounded := by
  unfold Expr.followedBy
  split
  · exact hb
  · split
    · exact ha
    · exact ⟨ha, hb⟩

theorem mem_roundsLeft {emptyHere : Bool} {least : Nat} {most : Option Nat} {left : Expr} :
    left ∈ roundsLeft emptyHere e least most ↔
      most ≠ some 0 ∧ ∃ i, (i = 0 ∨ emptyHere = true ∧ i < least) ∧
        left = .rep e (least - 1 - i) (most.map (· - 1 - i)) := by
  unfold roundsLeft
  split
  · simp [*]
  · simp only [List.mem_map, List.mem_range, ne_eq, *, not_false_eq_true, true_and]
    constructor
    · rintro ⟨i, hi, rfl⟩
      refine ⟨i, ?_, rfl⟩
      split at hi
      · rename_i hempty
        by_cases h0 : i = 0
        · exact .inl h0
        · exact .inr ⟨hempty, by omega⟩
      · exact .inl (by omega)
    · rintro ⟨i, hi, rfl⟩
      refine ⟨i, ?_, rfl⟩
      rcases hi with rfl | ⟨hempty, hi⟩
      · split <;> omega
      · rw [if_pos hempty]
        omega

theorem IsBounded.after {p : Place} (h : e.IsBounded) : ∀ f ∈ e.after p c, f.IsBounded := by
  induction e with
  | empty => simp [Expr.after]
  | set s =>
    intro f hf
    rw [Expr.after] at hf
    split at hf <;> simp_all [IsBounded]
  | look l => simp [Expr.after]
  | seq a b iha ihb =>
    intro f hf
    simp only [Expr.after, List.mem_append, List.mem_map] at hf
    rcases hf with ⟨a', ha', rfl⟩ | hf
    · exact (iha h.1 a' ha').followedBy h.2
    · split at hf
      · exact ihb h.2 f hf
      · simp at hf
  | alt a b iha ihb =>
    intro f hf
    rcases List.mem_append.mp hf with hf | hf
    · exact iha h.1 f hf
    · exact ihb h.2 f hf
  | rep e least most ih =>
    intro f hf
    simp only [Expr.after, List.mem_flatMap, List.mem_map, mem_roundsLeft] at hf
    obtain ⟨left, ⟨-, i, -, rfl⟩, e', he', rfl⟩ := hf
    refine (ih h.1 e' he').followedBy ⟨h.1, fun k hk => ?_⟩
    obtain ⟨k', hk', rfl⟩ := Option.map_eq_some_iff.mp hk
    have := h.2 k' hk'
    omega

theorem exists_followedBy {l : List Expr} :
    (∃ f ∈ l.map (·.followedBy b), f.Matches before m behind) ↔
    ∃ m₁ m₂, m = m₁ ++ m₂ ∧ (∃ a ∈ l, a.Matches before m₁ (headOr m₂ behind)) ∧
      b.Matches (lastOr before m₁) m₂ behind := by
  simp only [List.mem_map]
  constructor
  · rintro ⟨_, ⟨a, ha, rfl⟩, hmatch⟩
    obtain ⟨m₁, m₂, rfl, hfirst, hrest⟩ := matches_followedBy.mp hmatch
    exact ⟨m₁, m₂, rfl, ⟨a, ha, hfirst⟩, hrest⟩
  · rintro ⟨m₁, m₂, rfl, ⟨a, ha, hfirst⟩, hrest⟩
    exact ⟨_, ⟨a, ha, rfl⟩, matches_followedBy.mpr ⟨m₁, m₂, rfl, hfirst, hrest⟩⟩

theorem matches_seq_cons (ha : a.IsBounded) : (seq a b).Matches before (c :: m) behind ↔
    (∃ m₁ m₂, m = m₁ ++ m₂ ∧ a.Matches before (c :: m₁) (headOr m₂ behind) ∧
      b.Matches (lastOr (some c) m₁) m₂ behind) ∨
      a.isEmptyAt ⟨before, some c⟩ = true ∧ b.Matches before (c :: m) behind := by
  rw [Matches, exists_cut_cons, headOr_cons, lastOr_nil, matches_nil ha, or_comm]
  simp only [lastOr_cons]

theorem matches_rep_cons {least : Nat} {most : Option Nat} (h : (rep e least most).IsBounded) :
    (rep e least most).Matches before (c :: m) behind ↔
      ∃ left ∈ roundsLeft (e.isEmptyAt ⟨before, some c⟩) e least most, ∃ m₁ m₂, m = m₁ ++ m₂ ∧
        e.Matches before (c :: m₁) (headOr m₂ behind) ∧
          left.Matches (lastOr (some c) m₁) m₂ behind := by
  simp only [Matches, rounds_cons, matches_nil h.1, mem_roundsLeft]
  constructor
  · rintro ⟨_, hleast, hmost, i, r, rfl, hempty, m₁, m₂, rfl, hfirst, hrest⟩
    have hne : most ≠ some 0 := by
      rintro rfl
      have := hmost 0 rfl
      omega
    -- of the rounds before the first that takes characters no more are kept than are asked for
    refine ⟨_, ⟨hne, min i (least - 1), ?_, rfl⟩, m₁, m₂, rfl, hfirst, r, by omega, fun k hk => ?_,
      hrest⟩
    · rcases hempty with rfl | hempty
      · exact .inl (by omega)
      · by_cases h1 : least ≤ 1
        · exact .inl (by omega)
        · exact .inr ⟨hempty, by omega⟩
    · obtain ⟨k', hk', rfl⟩ := Option.map_eq_some_iff.mp hk
      have := hmost k' hk'
      omega
  · rintro ⟨_, ⟨hne, i, hi, rfl⟩, m₁, m₂, rfl, hfirst, r, hleast, hmost, hrest⟩
    refine ⟨i + 1 + r, by omega, fun k hk => ?_, i, r, rfl, hi.imp_right And.left, m₁, m₂, rfl,
      hfirst, hrest⟩
    have hr := hmost _ (Option.map_eq_some_iff.mpr ⟨k, hk, rfl⟩)
    have hbound := h.2 k hk
    have hpos : k ≠ 0 := by
      rintro rfl
      exact hne hk
    omega

/-- What is matched behind the first character is matched by what may follow it. -/
theorem matches_cons (h : e.IsBounded) :
    e.Matches before (c :: m) behind ↔
      ∃ f ∈ e.after ⟨before, some c⟩ c, f.Matches (some c) m behind := by
  induction e generalizing before m behind with
  | empty => simp [Matches, Expr.after]
  | set s =>
    by_cases hs : s.contains c = true
    · simp [Matches, Expr.after, hs]
    · simp [Matches, Expr.after, hs]
  | look l => simp [Matches, Expr.after]
  | seq a b iha ihb =>
    rw [matches_seq_cons h.1, Expr.after]
    simp only [List.mem_append, or_and_right, exists_or, exists_followedBy, iha h.1, ihb h.2]
    split <;> simp [*]
  | alt a b iha ihb =>
    rw [Matches, iha h.1, ihb h.2, Expr.after]
    simp only [List.mem_append, or_and_right, exists_or]
  | rep e least most ih =>
    rw [matches_rep_cons h, Expr.after]
    simp only [List.mem_flatMap, ih h.1, ← exists_followedBy]
    constructor
    · rintro ⟨left, hleft, f, hf, hmatch⟩
      exact ⟨f, ⟨left, hleft, hf⟩, hmatch⟩
    · rintro ⟨f, ⟨left, hleft, hf⟩, hmatch⟩
      exact ⟨left, hleft, f, hf, hmatch⟩

/-! ## The search -/

/-- A stretch at the beginning of the text is matched. -/
def Begins (e : Expr) (before : Option Char) (t : Text) : Prop :=
  ∃ m y, t = m ++ y ∧ e.Matches before m y.head?

/-- A stretch somewhere in the text is matched. -/
def Occurs (e : Expr) (before : Option Char) (t : Text) : Prop :=
  ∃ x m y, t = x ++ (m ++ y) ∧ e.Matches (lastOr before x) m y.head?

theorem begins_nil (h : e.IsBounded) : e.Begins before [] ↔ e.isEmptyAt ⟨before, none⟩ = true := by
  rw [← matches_nil h]
  constructor
  · rintro ⟨m, y, heq, hmatch⟩
    obtain ⟨rfl, rfl⟩ := List.append_eq_nil_iff.mp heq.symm
    exact hmatch
  · exact fun hmatch => ⟨[], [], rfl, hmatch⟩

theorem begins_cons (h : e.IsBounded) : e.Begins before (c :: t) ↔
    e.isEmptyAt ⟨before, some c⟩ = true ∨ ∃ f ∈ e.after ⟨before, some c⟩ c,
      f.Begins (some c) t := by
  rw [Begins, exists_cut_cons, List.head?_cons, matches_nil h]
  simp only [matches_cons h]
  apply or_congr_right
  constructor
  · rintro ⟨m, y, rfl, f, hf, hmatch⟩
    exact ⟨f, hf, m, y, rfl, hmatch⟩
  · rintro ⟨f, hf, m, y, rfl, hmatch⟩
    exact ⟨m, y, rfl, f, hf, hmatch⟩

theorem occurs_nil : e.Occurs before [] ↔ e.Begins before [] := by
  constructor
  · rintro ⟨x, m, y, heq, hmatch⟩
    obtain ⟨rfl, hmy⟩ := List.append_eq_nil_iff.mp heq.symm
    exact ⟨m, y, hmy.symm, hmatch⟩
  · rintro ⟨m, y, heq, hmatch⟩
    exact ⟨[], m, y, heq, hmatch⟩

theorem occurs_cons :
    e.Occurs before (c :: t) ↔ e.Begins before (c :: t) ∨ e.Occurs (some c) t := by
  unfold Occurs Begins
  constructor
  · rintro ⟨x, m, y, heq, hmatch⟩
    cases x with
    | nil => exact .inl ⟨m, y, heq, hmatch⟩
    | cons d x =>
      obtain ⟨rfl, rfl⟩ := List.cons.inj heq
      exact .inr ⟨x, m, y, rfl, by simpa using hmatch⟩
  · rintro (⟨m, y, heq, hmatch⟩ | ⟨x, m, y, rfl, hmatch⟩)
    · exact ⟨[], m, y, heq, hmatch⟩
    · exact ⟨c :: x, m, y, rfl, by simpa using hmatch⟩

theorem occursFrom_iff {start : Expr} {current : List Expr} (hs : start.IsBounded)
    (hc : ∀ e ∈ current, e.IsBounded) :
    occursFrom start before current t = true ↔
      (∃ e ∈ current, e.Begins before t) ∨ start.Occurs before t := by
  induction t generalizing before current with
  | nil =>
    simp only [occursFrom, List.any_eq_true, List.mem_cons, exists_eq_or_imp, occurs_nil,
      begins_nil hs]
    rw [or_comm]
    refine or_congr_left (exists_congr fun e => and_congr_right fun he => ?_)
    rw [begins_nil (hc e he)]
  | cons c t ih =>
    have hall : ∀ e ∈ start :: current, e.IsBounded := List.forall_mem_cons.mpr ⟨hs, hc⟩
    have hnext : ∀ f ∈ ((start :: current).flatMap (·.after ⟨before, some c⟩ c)).eraseDups,
        f.IsBounded := by
      intro f hf
      obtain ⟨e, he, hf⟩ := List.mem_flatMap.mp (List.mem_eraseDups.mp hf)
      exact (hall e he).after f hf
    have hbegins : (∃ e ∈ start :: current, e.Begins before (c :: t)) ↔
        (start :: current).any (·.isEmptyAt ⟨before, some c⟩) = true ∨
          ∃ f ∈ ((start :: current).flatMap (·.after ⟨before, some c⟩ c)).eraseDups,
            f.Begins (some c) t := by
      simp only [List.mem_eraseDups, List.mem_flatMap, List.any_eq_true]
      constructor
      · rintro ⟨e, he, hbegin⟩
        rcases (begins_cons (hall e he)).mp hbegin with hempty | ⟨f, hf, hbegin⟩
        · exact .inl ⟨e, he, hempty⟩
        · exact .inr ⟨f, ⟨e, he, hf⟩, hbegin⟩
      · rintro (⟨e, he, hempty⟩ | ⟨f, ⟨e, he, hf⟩, hbegin⟩)
        · exact ⟨e, he, (begins_cons (hall e he)).mpr (.inl hempty)⟩
        · exact ⟨e, he, (begins_cons (hall e he)).mpr (.inr ⟨f, hf, hbegin⟩)⟩
    rw [occursFrom, Bool.or_eq_true, ih hnext, ← or_assoc, ← hbegins, occurs_cons]
    simp only [List.mem_cons, exists_eq_or_imp]
    rw [or_assoc, or_left_comm]

/-- The search finds a match exactly when a stretch of the text is one. -/
theorem occursIn_iff (h : e.IsBounded) :
    e.occursIn t = true ↔ ∃ x m y, t = x ++ (m ++ y) ∧ e.Matches x.getLast? m y.head? := by
  rw [occursIn, occursFrom_iff h (by simp)]
  simp [Occurs]

end Expr

end Scenarist.Pattern

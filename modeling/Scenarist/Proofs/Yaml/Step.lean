import Scenarist.Proofs.Yaml.Legible
import Scenarist.Yaml.Block
import Scenarist.Yaml.Layout

/-! # Steps of the scanner

What the scanner does with the next characters of a text in block layout: with blanks and line
breaks, with a scalar, and with a name and its colon. Outside of brackets the scanner is given by
its tokens, its columns, whether a key may start, and the candidate for a key.
-/

namespace Scenarist.Yaml.Layout

/-- The scanner at the start of a line. -/
def line (tokens : List Token) (columns : List Nat) : Layout := ⟨tokens, columns, true, none, []⟩

/-- A token may start with this character. -/
def isTokenStart (c : Char) : Bool :=
  !isBlank c && !endsLine c && c != '#' && c != '\x00' && c != '\ufeff' && c != '\r'

variable {tokens : List Token} {columns : List Nat} {allowed : Bool}

/-! ## Gaps -/

theorem tokens?_break (n : Nat) (candidate : Option Candidate) {s : Spot}
    (h : isBreak s.char = true)
    (r : List Spot) :
    tokens? n ⟨tokens, columns, allowed, candidate, []⟩ (s :: r) =
      tokens? n ⟨tokens, columns, true, candidate, []⟩ r := by
  cases n with
  | zero => rfl
  | succ n =>
    rw [tokens?, tokens?, skipGap, if_pos h]
    rfl

theorem tokens?_blank (n : Nat) (l : Layout) {s : Spot} (h : s.char = ' ') (r : List Spot) :
    tokens? n l (s :: r) = tokens? n l r := by
  cases n with
  | zero => rfl
  | succ n =>
    rw [tokens?, tokens?, skipGap, h]
    rfl

theorem pad_succ (width : Nat) : pad (width + 1) = ' ' :: pad width := rfl

theorem tokens?_pad (n : Nat) (l : Layout) (p : Place) (width : Nat) (t : Text) :
    tokens? n l (spots p (pad width ++ t)) =
      tokens? n l (spots (p.after (pad width)) t) := by
  induction width generalizing p with
  | zero => rfl
  | succ width ih =>
    rw [pad_succ, List.cons_append, spots_cons p (by decide), tokens?_blank _ _ rfl, ih]
    rfl

theorem isTokenStart_spec {c : Char} (h : isTokenStart c = true) :
    isBlank c = false ∧ endsLine c = false ∧ c ≠ '#' ∧ c ≠ '\x00' ∧ c ≠ '\ufeff' ∧ c ≠ '\r' := by
  simpa [isTokenStart, and_assoc] using h

theorem skipGap_token (l : Layout) {s : Spot} (h : isTokenStart s.char = true) (r : List Spot) :
    skipGap l false (s :: r) = (l, s :: r) := by
  obtain ⟨hblank, hline, hhash, -, hmark, -⟩ := isTokenStart_spec h
  obtain ⟨hspace, htab⟩ : s.char ≠ ' ' ∧ s.char ≠ '\t' := by
    rw [Bool.eq_false_iff, ne_eq, isBlank_iff, not_or] at hblank
    exact hblank
  rw [skipGap, not_isBreak_of_not_endsLine hline, if_neg Bool.false_ne_true, Bool.false_and,
    if_neg Bool.false_ne_true,
    if_neg (by simp [hspace, htab]), if_neg (by simpa using hhash), if_neg (by simp [hmark])]

theorem spots_token (p : Place) {c : Char} (h : isTokenStart c = true) (t : Text) :
    spots p (c :: t) = p.spot c :: spots (p.next c) t := by
  obtain ⟨-, hline, -, -, -, hreturn⟩ := isTokenStart_spec h
  rw [spots_cons p hreturn, shown_eq (ne_of_not_endsLine hline rfl)]
  rfl

theorem tokens?_token (n : Nat) (l : Layout) (p : Place) {c : Char} (h : isTokenStart c = true)
    (t : Text) :
    tokens? (n + 1) l (spots p (c :: t)) =
      (l.dropStale? (p.spot c)).bind fun l =>
        ((l.closeTo p.column).token? (p.spot c) (spots (p.next c) t)).bind fun u =>
          tokens? n u.1 u.2 := by
  obtain ⟨-, -, -, hnull, -, -⟩ := isTokenStart_spec h
  have hskip := skipGap_token l (s := p.spot c) h (spots (p.next c) t)
  rw [spots_token p h, tokens?, hskip]
  simp only [Place.spot, hnull, if_false]
  rfl

/-! ## Candidates -/

theorem dropStale?_line (s : Spot) :
    dropStale? s (line tokens columns) = some (line tokens columns) := rfl

theorem dropStale?_none (s : Spot) :
    dropStale? s ⟨tokens, columns, allowed, none, []⟩ = some ⟨tokens, columns, allowed, none, []⟩ :=
  rfl

theorem skipGap_candidate (tokens : List Token) (columns : List Nat) (allowed comment : Bool)
    (spots : List Spot) :
    ∃ (allowed' : Bool) (rest : List Spot), (∀ s ∈ rest, s ∈ spots) ∧ ∀ candidate,
      skipGap ⟨tokens, columns, allowed, candidate, []⟩ comment spots =
        (⟨tokens, columns, allowed', candidate, []⟩, rest) := by
  induction spots generalizing allowed comment with
  | nil => exact ⟨allowed, [], by simp, fun _ => rfl⟩
  | cons s r ih =>
    have hskip : ∀ (allowed' comment' : Bool), (∀ candidate,
        skipGap ⟨tokens, columns, allowed, candidate, []⟩ comment (s :: r) =
          skipGap ⟨tokens, columns, allowed', candidate, []⟩ comment' r) →
        ∃ (allowed' : Bool) (rest : List Spot), (∀ x ∈ rest, x ∈ s :: r) ∧ ∀ candidate,
          skipGap ⟨tokens, columns, allowed, candidate, []⟩ comment (s :: r) =
            (⟨tokens, columns, allowed', candidate, []⟩, rest) := by
      intro allowed' comment' heq
      obtain ⟨b, rest, hmem, hrest⟩ := ih allowed' comment'
      exact ⟨b, rest, fun x hx => List.mem_cons_of_mem _ (hmem x hx), fun c =>
        (heq c).trans (hrest c)⟩
    by_cases hbreak : isBreak s.char = true
    · exact hskip true false fun c => by rw [skipGap, if_pos hbreak]; rfl
    by_cases hcomment : (comment && s.char != '\x00') = true
    · exact hskip allowed true fun c => by rw [skipGap, if_neg hbreak, if_pos hcomment]
    by_cases hblank : (s.char == ' ' || (s.char == '\t' && (false || !allowed))) = true
    · exact hskip allowed false fun c => by
        rw [skipGap, if_neg hbreak, if_neg hcomment, if_pos (by exact hblank)]
    by_cases hhash : (s.char == '#') = true
    · exact hskip allowed true fun c => by
        rw [skipGap, if_neg hbreak, if_neg hcomment, if_neg (by exact hblank), if_pos hhash]
    by_cases hmark : (s.char == '\ufeff' && s.index == 0) = true
    · exact hskip allowed false fun c => by
        rw [skipGap, if_neg hbreak, if_neg hcomment, if_neg (by exact hblank), if_neg hhash,
          if_pos hmark]
    · exact ⟨allowed, s :: r, fun x hx => hx, fun c => by
        rw [skipGap, if_neg hbreak, if_neg hcomment, if_neg (by exact hblank), if_neg hhash,
          if_neg hmark]⟩

/-- A candidate of an earlier line that is not required does not count any more. -/
theorem tokens?_forget (n : Nat) {c : Candidate} (hrequired : c.required = false) {p : Place}
    (hline : c.line < p.line) (t : Text) :
    tokens? n ⟨tokens, columns, allowed, some c, []⟩ (spots p t) =
      tokens? n ⟨tokens, columns, allowed, none, []⟩ (spots p t) := by
  cases n with
  | zero => rfl
  | succ n =>
    obtain ⟨allowed', rest, hmem, hskip⟩ :=
      skipGap_candidate tokens columns allowed false (spots p t)
    rw [tokens?, tokens?, hskip, hskip]
    cases rest with
    | nil => rfl
    | cons s r =>
      have hstale : isStale s c = true := by
        have := line_le_of_mem (hmem s (by simp))
        rw [isStale, Bool.or_eq_true, decide_eq_true_eq, decide_eq_true_eq]
        exact .inl (by omega)
      have hdrop : dropStale? s ⟨tokens, columns, allowed', some c, []⟩ =
          some ⟨tokens, columns, allowed', none, []⟩ := by
        simp [dropStale?, hstale, hrequired]
      dsimp only
      rw [hdrop]
      rfl

/-! ## Columns -/

/-- The ends of the blocks at these columns. -/
def ends (columns : List Nat) : List Token := columns.map fun _ => Token.blockEnd

theorem ends_append (columns columns' : List Nat) :
    ends (columns ++ columns') = ends columns ++ ends columns' :=
  List.map_append

theorem ends_comm (columns columns' : List Nat) :
    ends columns ++ ends columns' = ends columns' ++ ends columns := by
  simp only [ends, List.map_const', List.replicate_append_replicate, Nat.add_comm]

theorem indent_lt {column : Nat} {candidate : Option Candidate}
    (h : ∀ c ∈ columns.head?, c < column) :
    indent ⟨tokens, columns, allowed, candidate, []⟩ < column := by
  cases columns with
  | nil =>
    change (-1 : Int) < column
    omega
  | cons c columns => exact Int.ofNat_lt.mpr (h c rfl)

theorem closeTo_inside {column : Nat} (h : ∀ c ∈ columns.head?, c ≤ column)
    (candidate : Option Candidate) :
    closeTo column ⟨tokens, columns, allowed, candidate, []⟩ =
      ⟨tokens, columns, allowed, candidate, []⟩ := by
  have hnone : columns.takeWhile (fun (c : Nat) => decide ((column : Int) < c)) = [] := by
    cases columns with
    | nil => rfl
    | cons c cs =>
      have := h c (by simp)
      rw [List.takeWhile_cons_of_neg]
      simp only [decide_eq_true_eq]
      omega
  rw [closeTo, if_neg (by simp [inFlow])]
  dsimp only
  rw [hnone]
  rfl

theorem closeTo_line (column : Int) (tokens : List Token) (columns : List Nat) :
    closeTo column (line tokens columns) =
      line (ends (columns.takeWhile fun (c : Nat) => decide (column < c)) ++ tokens)
        (columns.dropWhile fun (c : Nat) => decide (column < c)) := by
  have hdrop : ∀ p : Nat →
      Bool, columns.drop (columns.takeWhile p).length = columns.dropWhile p := by
    intro p
    conv => lhs; arg 2; rw [← List.takeWhile_append_dropWhile (p := p) (l := columns)]
    rw [List.drop_left]
  rw [closeTo, if_neg (by simp [inFlow, line])]
  simp only [line, hdrop]
  rfl

/-- A block that ends before a column may as well have ended earlier. -/
theorem closeTo_blockEnd {column : Int} {c : Nat} (h : column < c) :
    closeTo column (line tokens (c :: columns)) =
      closeTo column (line (.blockEnd :: tokens) columns) := by
  rw [closeTo_line, closeTo_line, List.takeWhile_cons_of_pos (by simpa using h),
    List.dropWhile_cons_of_pos (by simpa using h)]
  generalize columns.takeWhile _ = ended
  have hcomm : ends (c :: ended) = ends ended ++ ends [c] := ends_comm [c] ended
  rw [hcomm, List.append_assoc]
  rfl

theorem tokens?_end (n : Nat) (p : Place) :
    tokens? (n + 1) (line tokens columns) (spots p []) = some (ends columns ++ tokens).reverse := by
  have hskip : skipGap (line tokens columns) false (spots p []) =
      (line tokens columns, spots p []) := by
    rw [spots_nil, skipGap]
    rfl
  have hstep : tokens? (n + 1) (line tokens columns) (spots p []) =
      some (closeTo (-1) (closeTo p.column (line tokens columns))).tokens.reverse := by
    rw [tokens?, hskip, spots_nil]
    dsimp only
    rw [line, dropStale?_none, ← line, Option.bind_eq_bind, Option.bind_some, if_pos rfl,
      closeTo_line, atMargin?, closeTo_line]
    rfl
  rw [hstep, closeTo_line, closeTo_line]
  generalize hq : (fun (c : Nat) => decide ((p.column : Int) < c)) = q
  have hall : ∀ l : List Nat, l.takeWhile (fun (c : Nat) => decide (-1 < (c : Int))) = l := by
    intro l
    induction l with
    | nil => rfl
    | cons c l ih =>
      rw [List.takeWhile_cons_of_pos (by simp only [decide_eq_true_eq]; omega), ih]
  rw [hall, ← List.append_assoc, ends_comm, ← ends_append, List.takeWhile_append_dropWhile]
  rfl

/-! ## The end of a block -/

/-- What may stand behind the lines of a block at column `k`: the end, or a line that begins before
that column. -/
inductive Follows (k : Nat) : Text → Prop where
  | stop : Follows k []
  | line {j : Nat} {c : Char} (t : Text) (hj : j < k) (hc : isTokenStart c = true) :
    Follows k (pad j ++ c :: t)

theorem Follows.mono {j k : Nat} {t : Text} (h : Follows j t) (hjk : j ≤ k) : Follows k t := by
  cases h with
  | stop => exact .stop
  | line t hj hc => exact .line t (by omega) hc

theorem Place.after_blanks {p : Place} (hp : p.column = 0) (j : Nat) :
    (p.after (pad j)).column = j := by
  have hline : ∀ c ∈ pad j, endsLine c = false := by
    intro c hc
    rw [List.eq_of_mem_replicate hc]
    rfl
  rw [(p.after_line hline).2, hp, Nat.zero_add]
  exact List.length_replicate

theorem tokens?_blockEnd (n : Nat) {k : Nat} {p : Place} (hp : p.column = 0) {t : Text}
    (h : Follows k t) :
    tokens? n (line tokens (k :: columns)) (spots p t) =
      tokens? n (line (.blockEnd :: tokens) columns) (spots p t) := by
  cases n with
  | zero => rfl
  | succ n =>
    cases h with
    | stop =>
      have hcomm : ends (k :: columns) = ends columns ++ ends [k] := ends_comm [k] columns
      rw [tokens?_end, tokens?_end, hcomm, List.append_assoc]
      rfl
    | @line j c t hj hc =>
      rw [tokens?_pad, tokens?_pad, tokens?_token _ _ _ hc, tokens?_token _ _ _ hc]
      have hcolumn := Place.after_blanks hp j
      have hclose : closeTo (p.after (pad j)).column (line tokens (k :: columns)) =
          closeTo (p.after (pad j)).column (line (.blockEnd :: tokens) columns) :=
        closeTo_blockEnd (by omega)
      rw [dropStale?_line, dropStale?_line, Option.bind_some, Option.bind_some, hclose]

end Scenarist.Yaml.Layout

import Mathlib.Tactic.Tauto
import Scenarist.Proofs.Json.Quoted
import Scenarist.Proofs.Yaml.Place
import Scenarist.Yaml.ScalarText

/-! # Quoted strings as scalars

A string is quoted as in JSON and read as a scalar. Three line breaks stand in it as they are, and
the blanks around them are lost; behind one of them a line may look like the mark of a document.
-/

namespace Scenarist.Yaml

/-! ## What is read -/

/-- The line breaks that are not escaped. -/
def isRawBreak (c : Char) : Bool := c == '\u0085' || c == '\u2028' || c == '\u2029'

/-- At the start of a line this is the mark of a document. -/
def startsMark : Text → Bool
  | a :: b :: c :: d :: _ =>
    (a == '-' || a == '.') && b == a && c == a && (d == ' ' || isRawBreak d)
  | _ => false

/-- What is read of a text that was quoted. `margin` says that the text begins a line. -/
def rereadFrom (margin : Bool) (gap : Gap) : Text → Option Text
  | [] => some gap.folded
  | c :: r =>
    if margin && startsMark (c :: r) then none
    else if c = ' ' then rereadFrom false (gap.addBlank ' ') r
    else if isRawBreak c then rereadFrom true (gap.addBreak (shown c)) r
    else (rereadFrom false .empty r).map (gap.folded ++ c :: ·)

def reread? (t : Text) : Option Text := rereadFrom false .empty t

/-- The characters between the quotes. -/
def escaped (t : Text) : Text := t.flatMap Json.escapeChar

/-! ## Escapes -/

theorem ne_of_not_endsLine {c d : Char} (h : endsLine c = false) (hd : endsLine d = true) :
    c ≠ d := by
  rintro rfl
  simp [h] at hd

theorem not_isBreak_charAt (p : Place) {c : Char} (hreturn : c ≠ '\r') (hline : endsLine c = false)
    (t : Text) : isBreak (charAt 0 (spots p (c :: t))) = false := by
  rw [charAt_zero p hreturn, shown_eq (ne_of_not_endsLine hline rfl)]
  simp_all [endsLine]

/-- The spots of an escape are read as the character. -/
structure Escapes (c : Char) (e : Text) : Prop where
  nonempty : e ≠ []
  inLine : ∀ d ∈ e, d ≠ '\r' ∧ endsLine d = false
  reads : ∀ p more, escape? (spots p (e ++ more)) = some (c, e.length)

theorem Escapes.letter {l c : Char} (hl : escapeLetter l = some (.inl c)) (hreturn : l ≠ '\r')
    (hline : endsLine l = false) : Escapes c [l] where
  nonempty := by simp
  inLine d hd := by
    rw [List.mem_singleton.mp hd]
    exact ⟨hreturn, hline⟩
  reads p more := by
    rw [List.singleton_append, escape?, charAt_zero p hreturn,
      shown_eq (ne_of_not_endsLine hline rfl), hl]
    rfl

theorem hexDigit_inLine {n : Nat} (h : n < 16) :
    Nat.digitChar n ≠ '\r' ∧ endsLine (Nat.digitChar n) = false := by
  have all : ∀ n < 16, Nat.digitChar n ≠ '\r' ∧ endsLine (Nat.digitChar n) = false := by decide
  exact all n h

theorem Escapes.control {c : Char} (h : c.toNat < 32) :
    Escapes c ['u', '0', '0', Nat.digitChar (c.toNat / 16), Nat.digitChar (c.toNat % 16)] := by
  have hhigh := hexDigit_inLine (n := c.toNat / 16) (by omega)
  have hlow := hexDigit_inLine (n := c.toNat % 16) (by omega)
  have hhigh' := shown_eq (ne_of_not_endsLine hhigh.2 rfl)
  have hlow' := shown_eq (ne_of_not_endsLine hlow.2 rfl)
  have all : ∀ n < 32, Text.toNat? 16 ['0', '0', Nat.digitChar (n / 16), Nat.digitChar (n % 16)] =
      some n := by decide
  refine ⟨by simp, ?_, ?_⟩
  · simp [hhigh, hlow, endsLine, isBreak]
  · intro p more
    have hu : escapeLetter (shown 'u') = some (.inr 4) := rfl
    have hzero : shown '0' = '0' := rfl
    simp only [List.cons_append, List.nil_append]
    rw [spots_cons p (by decide), spots_cons _ (by decide), spots_cons _ (by decide),
      spots_cons _ hhigh.1, spots_cons _ hlow.1]
    simp [escape?, charAt, hu, hzero, hhigh', hlow', all _ h, Text.charOfNat?_toNat]

theorem escapeChar_cases (c : Char) :
    (Json.escapeChar c = [c] ∧ c ≠ '"' ∧ c ≠ '\\' ∧ ' ' ≤ c) ∨
    ∃ e, Json.escapeChar c = '\\' :: e ∧ Escapes c e ∧ (c < ' ' ∨ c = '"' ∨ c = '\\') := by
  by_cases hquote : c = '"'
  · subst hquote
    exact .inr ⟨['"'], rfl, .letter rfl (by decide) rfl, .inr (.inl rfl)⟩
  by_cases hslash : c = '\\'
  · subst hslash
    exact .inr ⟨['\\'], rfl, .letter rfl (by decide) rfl, .inr (.inr rfl)⟩
  by_cases hback : c = '\x08'
  · subst hback
    exact .inr ⟨['b'], rfl, .letter rfl (by decide) rfl, .inl (by decide)⟩
  by_cases hform : c = '\x0c'
  · subst hform
    exact .inr ⟨['f'], rfl, .letter rfl (by decide) rfl, .inl (by decide)⟩
  by_cases hfeed : c = '\n'
  · subst hfeed
    exact .inr ⟨['n'], rfl, .letter rfl (by decide) rfl, .inl (by decide)⟩
  by_cases hreturn : c = '\r'
  · subst hreturn
    exact .inr ⟨['r'], rfl, .letter rfl (by decide) rfl, .inl (by decide)⟩
  by_cases htab : c = '\t'
  · subst htab
    exact .inr ⟨['t'], rfl, .letter rfl (by decide) rfl, .inl (by decide)⟩
  by_cases hcontrol : c < ' '
  · refine .inr ⟨_, ?_, .control (c := c) hcontrol, .inl hcontrol⟩
    simp only [Json.escapeChar, if_neg hquote, if_neg hslash, if_neg hback, if_neg hform,
      if_neg hfeed, if_neg hreturn, if_neg htab, if_pos hcontrol]
    rfl
  · refine .inl ⟨?_, hquote, hslash, Char.not_lt.mp hcontrol⟩
    simp only [Json.escapeChar, if_neg hquote, if_neg hslash, if_neg hback, if_neg hform,
      if_neg hfeed, if_neg hreturn, if_neg htab, if_neg hcontrol]

/-! ## The two kinds of characters -/

theorem isRawBreak_iff {c : Char} :
    isRawBreak c = true ↔ c = '\u0085' ∨ c = '\u2028' ∨ c = '\u2029' := by
  simp [isRawBreak, or_assoc]

theorem isBreak_iff {c : Char} : isBreak c = true ↔ c = '\n' ∨ c = '\u2028' ∨ c = '\u2029' := by
  simp [isBreak, or_assoc]

theorem isBlank_iff {c : Char} : isBlank c = true ↔ c = ' ' ∨ c = '\t' := by
  simp [isBlank]

theorem endsLine_iff {c : Char} :
    endsLine c = true ↔ c = '\n' ∨ c = '\u2028' ∨ c = '\u2029' ∨ c = '\u0085' := by
  simp [endsLine, isBreak, or_assoc]

theorem ne_of_space_le {c d : Char} (h : ' ' ≤ c) (hd : d < ' ') : c ≠ d := by
  rintro rfl
  exact absurd h (Char.not_le.mpr hd)

theorem isBreak_shown {c : Char} (h : ' ' ≤ c) : isBreak (shown c) = isRawBreak c := by
  have hfeed := ne_of_space_le h (d := '\n') (by decide)
  rw [Bool.eq_iff_iff, isBreak_iff, isRawBreak_iff, shown]
  split <;> simp [*]

theorem isBlank_shown {c : Char} (h : ' ' ≤ c) : isBlank (shown c) = (c == ' ') := by
  have htab := ne_of_space_le h (d := '\t') (by decide)
  rw [Bool.eq_iff_iff, isBlank_iff, beq_iff_eq, shown]
  split <;> simp [*]

theorem endsLine_eq_isRawBreak {c : Char} (h : ' ' ≤ c) : endsLine c = isRawBreak c := by
  have hfeed := ne_of_space_le h (d := '\n') (by decide)
  rw [Bool.eq_iff_iff, endsLine_iff, isRawBreak_iff]
  tauto

theorem shown_of_not_isRawBreak {c : Char} (h : isRawBreak c = false) : shown c = c := by
  apply shown_eq
  rintro rfl
  exact absurd h (by decide)

theorem not_self_of_escapes {c : Char} {e : Text} (hc : Json.escapeChar c = '\\' :: e)
    (he : Escapes c e) :
    Json.escapeChar c ≠ [c] := by
  rw [hc]
  intro h
  exact he.nonempty (List.cons.inj h).2

theorem ne_of_escapes {c d : Char} (h : c < ' ' ∨ c = '"' ∨ c = '\\')
    (hd : ¬(d < ' ' ∨ d = '"' ∨ d = '\\')) : c ≠ d := by
  rintro rfl
  exact hd h

theorem not_isRawBreak_of_escapes {c : Char} (h : c < ' ' ∨ c = '"' ∨ c = '\\') :
    isRawBreak c = false := by
  rw [Bool.eq_false_iff, ne_eq, isRawBreak_iff]
  rintro (rfl | rfl | rfl) <;> exact absurd h (by decide)

/-! ## What stands next -/

/-- The next character of a quoted text, which a backslash or the closing quote may stand for. -/
def nextShown : Text → Char
  | [] => '"'
  | c :: _ => if Json.escapeChar c = [c] then shown c else '\\'

theorem charAt_escaped (p : Place) (t more : Text) :
    charAt 0 (spots p (escaped t ++ '"' :: more)) = nextShown t := by
  cases t with
  | nil => exact charAt_zero p (by decide) more
  | cons c t =>
    rw [escaped, List.flatMap_cons, List.append_assoc, nextShown]
    rcases escapeChar_cases c with ⟨hc, -, -, hspace⟩ | ⟨e, hc, he, -⟩
    · rw [if_pos hc, hc]
      exact charAt_zero p (ne_of_space_le hspace (by decide)) _
    · rw [if_neg (not_self_of_escapes hc he), hc]
      exact charAt_zero p (by decide) _

theorem charAt_succ_escaped (p : Place) {c : Char} (hc : Json.escapeChar c = [c])
    (hreturn : c ≠ '\r')
    (t more : Text) (n : Nat) :
    charAt (n + 1) (spots p (escaped (c :: t) ++ '"' :: more)) =
      charAt n (spots (p.next c) (escaped t ++ '"' :: more)) := by
  rw [escaped, List.flatMap_cons, hc, List.singleton_append, List.cons_append,
    charAt_succ p hreturn]
  rfl

theorem nextShown_eq {t : Text} {a : Char} (hmark : a = '-' ∨ a = '.') :
    nextShown t = a ↔ ∃ r, t = a :: r := by
  have ha : Json.escapeChar a = [a] ∧ a ≠ '"' ∧ a ≠ '\\' ∧ a ≠ '\n' ∧ shown a = a := by
    rcases hmark with rfl | rfl <;> decide
  obtain ⟨hself, hquote, hslash, hfeed, hshown⟩ := ha
  cases t with
  | nil => simpa [nextShown] using fun h => hquote h.symm
  | cons c t =>
    simp only [nextShown, List.cons.injEq, exists_and_left, exists_eq', and_true]
    constructor
    · intro h
      split at h
      · rw [shown] at h
        split at h
        · exact absurd h.symm hfeed
        · exact h
      · exact absurd h.symm hslash
    · rintro rfl
      rw [if_pos hself, hshown]

theorem isGap_nextShown (t : Text) :
    isGap (nextShown t) = true ↔ ∃ d r, t = d :: r ∧ (d = ' ' ∨ isRawBreak d = true) := by
  cases t with
  | nil => simp [nextShown, isGap, isBlank, isBreak]
  | cons c t =>
    simp only [List.cons.injEq, and_assoc, exists_and_left, exists_eq_left', nextShown]
    rcases escapeChar_cases c with ⟨hc, -, -, hspace⟩ | ⟨e, hc, he, hless⟩
    · have hnull := shown_ne_null (ne_of_space_le hspace (d := '\x00') (by decide))
      rw [if_pos hc, isGap, isBlank_shown hspace, isBreak_shown hspace]
      simp [hnull]
    · have hblank := ne_of_escapes hless (d := ' ') (by decide)
      rw [if_neg (not_self_of_escapes hc he), not_isRawBreak_of_escapes hless]
      simp [hblank, isGap, isBlank, isBreak]

theorem startsMark_iff {t : Text} : startsMark t = true ↔
    ∃ a d r, t = a :: a :: a :: d :: r ∧ (a = '-' ∨ a = '.') ∧ (d = ' ' ∨ isRawBreak d = true) := by
  match t with
  | [] | [_] | [_, _] | [_, _, _] => simp [startsMark]
  | a :: b :: c :: d :: r =>
    simp only [startsMark, Bool.and_eq_true, Bool.or_eq_true, beq_iff_eq, List.cons.injEq]
    constructor
    · rintro ⟨⟨⟨ha, rfl⟩, rfl⟩, hd⟩
      exact ⟨_, _, _, ⟨rfl, rfl, rfl, rfl, rfl⟩, ha, hd⟩
    · rintro ⟨a', d', r', ⟨rfl, rfl, rfl, rfl, rfl⟩, ha, hd⟩
      exact ⟨⟨⟨ha, rfl⟩, rfl⟩, hd⟩

theorem isDocumentMark_escaped (p : Place) (c : Char) (t more : Text) (hc : Json.escapeChar c = [c])
    (hreturn : c ≠ '\r') :
    isDocumentMark (spots p (c :: (escaped t ++ '"' :: more))) =
      ((p.column == 0) && startsMark (c :: t)) := by
  rw [Bool.eq_iff_iff, spots_cons p hreturn, isDocumentMark_cons, Bool.and_eq_true, beq_iff_eq,
    startsMark_iff]
  refine and_congr_right fun _ => ?_
  dsimp only
  constructor
  · rintro ⟨hmark, hfirst, hsecond, hgap⟩
    have hshown : shown c = c := shown_eq (by rintro rfl; exact absurd hmark (by decide))
    rw [hshown] at hmark hfirst hsecond
    rw [charAt_escaped, nextShown_eq hmark] at hfirst
    obtain ⟨t, rfl⟩ := hfirst
    rw [charAt_succ_escaped _ hc hreturn] at hsecond hgap
    rw [charAt_escaped, nextShown_eq hmark] at hsecond
    obtain ⟨t, rfl⟩ := hsecond
    rw [charAt_succ_escaped _ hc hreturn, charAt_escaped, isGap_nextShown] at hgap
    obtain ⟨d, r, rfl, hd⟩ := hgap
    exact ⟨c, d, r, rfl, hmark, hd⟩
  · rintro ⟨a, d, r, heq, hmark, hd⟩
    obtain ⟨rfl, rfl⟩ := List.cons.inj heq
    have hshown : shown c = c := by rcases hmark with rfl | rfl <;> rfl
    simp only [charAt_succ_escaped _ hc hreturn, charAt_escaped, hshown, nextShown_eq hmark,
      isGap_nextShown]
    exact ⟨hmark, ⟨_, rfl⟩, ⟨_, rfl⟩, d, r, rfl, hd⟩

/-! ## The scalar -/

theorem quotedText_skip (p : Place) (e more : Text) (gap : Gap) (h : ∀ d ∈ e, d ≠ '\r') :
    quotedText false e.length gap (spots p (e ++ more)) =
      quotedText false 0 gap (spots (p.after e) more) := by
  induction e generalizing p with
  | nil => rfl
  | cons d e ih =>
    rw [List.cons_append, spots_cons p (h d (by simp)), List.length_cons, quotedText,
      ih (p.next d) fun x hx => h x (by simp [hx])]
    rfl

theorem quotedText_quote (p : Place) (gap : Gap) (more : Text) :
    quotedText false 0 gap (spots p ('"' :: more)) =
      some (gap.folded, spots (p.next '"') more) := by
  rw [spots_cons p (by decide), quotedText, if_neg]
  · rfl
  · simp [shown, isDocumentMark]

theorem quotedText_self (p : Place) (gap : Gap) {c : Char} (hspace : ' ' ≤ c) (hquote : c ≠ '"')
    (hslash : c ≠ '\\') (r : Text) :
    quotedText false 0 gap (spots p (c :: r)) =
      if isDocumentMark (spots p (c :: r)) then none
      else if c = ' ' then quotedText false 0 (gap.addBlank ' ') (spots (p.next c) r)
      else if isRawBreak c then quotedText false 0 (gap.addBreak (shown c)) (spots (p.next c) r)
      else (quotedText false 0 .empty (spots (p.next c) r)).map fun u =>
        (gap.folded ++ c :: u.1, u.2) := by
  have hnull := shown_ne_null (ne_of_space_le hspace (d := '\x00') (by decide))
  rw [spots_cons p (ne_of_space_le hspace (by decide)), quotedText]
  simp only [hnull, false_or, isBlank_shown hspace, isBreak_shown hspace, beq_iff_eq]
  refine if_congr Iff.rfl rfl ?_
  by_cases hblank : c = ' '
  · subst hblank
    rfl
  rw [if_neg hblank, if_neg hblank]
  cases hraw : isRawBreak c with
  | true => rfl
  | false =>
    rw [shown_of_not_isRawBreak hraw, if_neg hquote, if_neg hslash]
    cases quotedText false 0 .empty (spots (p.next c) r) <;> rfl

theorem quotedText_escape (p : Place) (gap : Gap) {c : Char} {e : Text} (he : Escapes c e)
    (more : Text) :
    quotedText false 0 gap (spots p ('\\' :: (e ++ more))) =
      (quotedText false 0 .empty (spots ((p.next '\\').after e) more)).map fun u =>
        (gap.folded ++ c :: u.1, u.2) := by
  have hslash : shown '\\' = '\\' := rfl
  have hbreak : isBreak (charAt 0 (spots (p.next '\\') (e ++ more))) = false := by
    obtain ⟨d, e, rfl⟩ := List.exists_cons_of_ne_nil he.nonempty
    obtain ⟨hreturn, hline⟩ := he.inLine d (by simp)
    exact not_isBreak_charAt _ hreturn hline _
  rw [spots_cons p (by decide), quotedText, hslash, if_neg]
  · dsimp only
    rw [if_neg (by decide), if_neg (by decide), if_neg (by decide), if_neg (by decide), if_pos rfl,
      hbreak, if_neg Bool.false_ne_true, he.reads, Option.bind_eq_bind, Option.bind_some]
    dsimp only
    rw [quotedText_skip _ _ _ _ fun d hd => (he.inLine d hd).1]
    cases quotedText false 0 .empty (spots ((p.next '\\').after e) more) <;> rfl
  · simp [isDocumentMark]

theorem rereadFrom_of_escapes {c : Char} (h : c < ' ' ∨ c = '"' ∨ c = '\\') (margin : Bool)
    (gap : Gap)
    (t : Text) : rereadFrom margin gap (c :: t) =
      (rereadFrom false .empty t).map (gap.folded ++ c :: ·) := by
  have hmark : startsMark (c :: t) = false := by
    rw [Bool.eq_false_iff, ne_eq, startsMark_iff]
    rintro ⟨a, d, r, heq, hmark, -⟩
    obtain ⟨rfl, -⟩ := List.cons.inj heq
    rcases hmark with rfl | rfl <;> exact absurd h (by decide)
  rw [rereadFrom, hmark, Bool.and_false, if_neg Bool.false_ne_true,
    if_neg (ne_of_escapes h (by decide)), not_isRawBreak_of_escapes h, if_neg Bool.false_ne_true]

/-- A quoted text is read up to its closing quote. -/
theorem quotedText_escaped (p : Place) (gap : Gap) (t more : Text) :
    quotedText false 0 gap (spots p (escaped t ++ '"' :: more)) =
      (rereadFrom (p.column == 0) gap t).map fun u =>
        (u, spots (p.after (escaped t ++ ['"'])) more) := by
  induction t generalizing p gap with
  | nil => exact quotedText_quote p gap more
  | cons c t ih =>
    have hescaped : escaped (c :: t) = Json.escapeChar c ++ escaped t := rfl
    rcases escapeChar_cases c with ⟨hc, hquote, hslash, hspace⟩ | ⟨e, hc, he, hless⟩
    · have hcolumn : ((p.next c).column == 0) = isRawBreak c := by
        rw [Place.column_next, endsLine_eq_isRawBreak hspace]
      rw [hescaped, hc, List.singleton_append, List.cons_append, List.cons_append,
        quotedText_self p gap hspace hquote hslash,
        isDocumentMark_escaped p c t more hc (ne_of_space_le hspace (by decide)), rereadFrom]
      simp only [ih, hcolumn, Place.after_cons]
      split
      · rfl
      split
      · subst c
        rfl
      cases isRawBreak c with
      | true => rfl
      | false => cases rereadFrom false .empty t <;> rfl
    · have hcolumn : (((p.next '\\').after e).column == 0) = false := by
        rw [((p.next '\\').after_line fun d hd => (he.inLine d hd).2).2]
        simp [he.nonempty]
      have hplace : p.after (escaped (c :: t) ++ ['"']) =
          ((p.next '\\').after e).after (escaped t ++ ['"']) := by
        rw [hescaped, hc, List.append_assoc, Place.after_append]
        rfl
      rw [rereadFrom_of_escapes hless, hplace, hescaped, hc, List.append_assoc, List.cons_append,
        quotedText_escape p gap he, ih, hcolumn]
      cases rereadFrom false .empty t <;> rfl

end Scenarist.Yaml

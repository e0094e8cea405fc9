import Mathlib.Data.List.TakeDrop
import Scenarist.Attribute.Reader
import Scenarist.Proofs.Outcome

/-! # Reading attributes by position

The readers of attribute bodies once more, with a cursor into the whole text instead of the text
that is left. The cursor is a plain number and is moved on without a look at the length of the text,
the raw text of a value is a slice between two positions, and no round is counted: a loop goes on as
long as there is something for it in the text.

Every reader does what the reader of the rest does, and leaves the cursor where its rest begins.
-/

namespace Scenarist.Attribute.Cursor

/-- What ends a reading early: a cause and the position where it arose, or a slice that is not in
the text. -/
inductive Halt where
  | fault (cause : Cause) (position : Nat)
  | outOfRange

section

variable (t : Text)

/-! ## Tokens -/

def readWhile (f : Char → Bool) (p : Nat) : Text × Nat :=
  if h : p < t.length then
    if f t[p] then (t[p] :: (readWhile f (p + 1)).1, (readWhile f (p + 1)).2) else ([], p)
  else ([], p)
termination_by t.length - p

def skipBlanks (p : Nat) : Nat := (readWhile t Text.isBlank p).2

def readName (p : Nat) : Text × Nat := readWhile t isNameChar (skipBlanks t p)

def readQuoted (quote : Char) (p : Nat) : Except Halt (Text × Nat) :=
  if h : p < t.length then
    if t[p] = quote then .ok ([], p + 1)
    else if t[p] = '\\' then
      match t[p + 1]? with
      | some c => (readQuoted quote (p + 2)).map fun (cs, q) => (c :: cs, q)
      | none => .error (.fault .unterminatedText (p + 1))
    else (readQuoted quote (p + 1)).map fun (cs, q) => (t[p] :: cs, q)
  else .error (.fault .unterminatedText p)
termination_by t.length - p

def readPattern (inClass : Bool) (p : Nat) : Except Halt (Text × Nat) :=
  if h : p < t.length then
    if t[p] = '\\' then
      match t[p + 1]? with
      | some c => (readPattern inClass (p + 2)).map fun (cs, q) => ('\\' :: c :: cs, q)
      | none => .error (.fault .unterminatedRegex (p + 1))
    else if t[p] = '/' ∧ !inClass then .ok ([], p + 1)
    else
      let inClass := if inClass then t[p] ≠ ']' else t[p] = '['
      (readPattern inClass (p + 1)).map fun (cs, q) => (t[p] :: cs, q)
  else .error (.fault .unterminatedRegex p)
termination_by t.length - p

def readRegex (p : Nat) : Except Halt (AttributeValue × Nat) := do
  let (pattern, q) ← readPattern t false p
  let (flags, q) := readWhile t isFlagLetter q
  match Pattern.compile pattern flags with
  | .ok _ => return (.regex pattern flags, q)
  | .error fault => throw (.fault (.regex fault) q)

def readPathPart (p : Nat) : Except Halt (Text × Nat) := do
  let p := skipBlanks t p
  let (part, q) ← match t[p]? with
    | some '\'' => readQuoted t '\'' (p + 1)
    | some '"' => readQuoted t '"' (p + 1)
    | _ => .ok (readName t p)
  if part = [] then throw (.fault .path q) else return (part, q)

def readOp (p : Nat) : Except Halt (AttributeOp × Nat) :=
  let p := skipBlanks t p
  match t[p]? with
  | none => .error (.fault .operator p)
  | some c =>
    if c = '=' then .ok (.equals, p + 1)
    else
      match t[p + 1]? with
      | none => .error (.fault .operator (p + 1))
      | some d =>
        match opOf? c with
        | some op => if d = '=' then .ok (op, p + 2) else .error (.fault .operator (p + 2))
        | none => .error (.fault .operator (p + 2))

def readUnquoted (allowText : Bool) (p : Nat) : Except Halt (AttributeValue × Nat) :=
  let (token, q) := readWhile t isValueChar p
  if token = "true" then .ok (.bool true, q)
  else if token = "false" then .ok (.bool false, q)
  else if allowText then .ok (.text token, q)
  else
    match Decimal.read? token with
    | some x => .ok (.number x, q)
    | none => .error (.fault .value q)

def readCase (p : Nat) : Bool × Nat :=
  let p := skipBlanks t p
  match t[p]? with
  | some 'i' | some 'I' => (false, p + 1)
  | some 's' | some 'S' => (true, p + 1)
  | _ => (true, p)

end

/-! ## Agreement with the readers of the rest -/

section

variable {t : Text} {p : Nat} {α β : Type}

/-- The same result, or a fault of the same cause. The cursor stands where the rest begins, not
before `p` and not behind the end of the text. -/
inductive Agrees (t : Text) (p : Nat) : Except Stop (α × Text) → Except Halt (α × Nat) → Prop
  | ok {a : α} {q : Nat} (hle : p ≤ q) (hin : q ≤ t.length) :
      Agrees t p (.ok (a, t.drop q)) (.ok (a, q))
  | fault {cause : Cause} {q : Nat} (hle : p ≤ q) (hin : q ≤ t.length) :
    Agrees t p (.error ⟨cause, t.drop q⟩) (.error (.fault cause q))

variable {x : Except Stop (α × Text)} {y : Except Halt (α × Nat)}

theorem Agrees.mono {q : Nat} (hp : p ≤ q) (h : Agrees t q x y) : Agrees t p x y := by
  cases h with
  | ok hle hin => exact .ok (by omega) hin
  | fault hle hin => exact .fault (by omega) hin

theorem Agrees.bind {f : α × Text → Except Stop (β × Text)} {g : α × Nat → Except Halt (β × Nat)}
    (h : Agrees t p x y)
    (hfg : ∀ a q, p ≤ q → q ≤ t.length → Agrees t q (f (a, t.drop q)) (g (a, q))) :
      Agrees t p (x >>= f) (y >>= g) := by
  cases h with
  | fault hle hin => exact .fault hle hin
  | ok hle hin => exact (hfg _ _ hle hin).mono hle

theorem Agrees.map (f : α → β) (h : Agrees t p x y) :
    Agrees t p (x.map fun (a, rest) => (f a, rest)) (y.map fun (a, q) => (f a, q)) := by
  cases h with
  | ok hle hin => exact .ok hle hin
  | fault hle hin => exact .fault hle hin

theorem drop_eq_cons_iff {c : Char} {r : Text} :
    t.drop p = c :: r ↔ t[p]? = some c ∧ t.drop (p + 1) = r := by
  constructor
  · intro h
    refine ⟨?_, ?_⟩
    · rw [← List.head?_drop, h]
      rfl
    · rw [← List.drop_drop, h]
      rfl
  · rintro ⟨hpeek, rfl⟩
    obtain ⟨hp, rfl⟩ := List.getElem?_eq_some_iff.mp hpeek
    exact List.drop_eq_getElem_cons hp

theorem lt_of_peek {c : Char} (h : t[p]? = some c) : p < t.length :=
  (List.getElem?_eq_some_iff.mp h).1

theorem peek_ne {c : Char} (h : ∀ r, t.drop p = c :: r → False) : t[p]? ≠ some c :=
  fun hpeek => h _ (drop_eq_cons_iff.mpr ⟨hpeek, rfl⟩)

/-! ## Tokens and blanks -/

theorem readWhile_eq (f : Char → Bool) (hp : p ≤ t.length) :
    ∃ cs q, (t.drop p).span f = (cs, t.drop q) ∧ readWhile t f p = (cs, q) ∧ p ≤ q ∧
      q ≤ t.length := by
  rw [List.span_eq_takeWhile_dropWhile]
  induction p using readWhile.induct t f with
  | case1 p h hf ih =>
    obtain ⟨cs, q, hspan, hread, hle, hin⟩ := ih h
    obtain ⟨htake, hdrop⟩ := Prod.mk.inj hspan
    refine ⟨t[p] :: cs, q, ?_, ?_, by omega, hin⟩
    · rw [List.drop_eq_getElem_cons h, List.takeWhile_cons_of_pos hf, List.dropWhile_cons_of_pos hf,
        htake, hdrop]
    · rw [readWhile, dif_pos h, if_pos hf, hread]
  | case2 p h hf =>
    refine ⟨[], p, ?_, ?_, Nat.le_refl p, hp⟩
    · rw [List.drop_eq_getElem_cons h, List.takeWhile_cons_of_neg hf, List.dropWhile_cons_of_neg hf]
    · rw [readWhile, dif_pos h, if_neg hf]
  | case3 p h =>
    refine ⟨[], p, ?_, ?_, Nat.le_refl p, hp⟩
    · rw [List.drop_eq_nil_of_le (by omega)]
      rfl
    · rw [readWhile, dif_neg h]

theorem skipBlanks_eq (hp : p ≤ t.length) :
    Attribute.skipBlanks (t.drop p) = t.drop (skipBlanks t p) ∧ p ≤ skipBlanks t p ∧
      skipBlanks t p ≤ t.length := by
  obtain ⟨cs, q, hspan, hread, hle, hin⟩ := readWhile_eq Text.isBlank hp
  rw [List.span_eq_takeWhile_dropWhile] at hspan
  unfold Attribute.skipBlanks skipBlanks
  rw [hread]
  exact ⟨(Prod.mk.inj hspan).2, hle, hin⟩

theorem readName_eq (hp : p ≤ t.length) :
    ∃ name q, Attribute.readName (t.drop p) = (name, t.drop q) ∧ readName t p = (name, q) ∧ p ≤ q ∧
      q ≤ t.length := by
  obtain ⟨hskip, hle, hin⟩ := skipBlanks_eq hp
  obtain ⟨name, q, hspan, hread, hle', hin'⟩ := readWhile_eq isNameChar hin
  unfold Attribute.readName readName
  rw [hskip]
  exact ⟨name, q, hspan, hread, by omega, hin'⟩

/-! ## Texts and patterns -/

theorem readQuoted_agrees {quote : Char} (hquote : quote ≠ '\\') (hp : p ≤ t.length) :
    Agrees t p (Attribute.readQuoted quote (t.drop p)) (readQuoted t quote p) := by
  -- one reader looks for the quote first and the other for the backslash, hence `hquote`
  induction p using readQuoted.induct t quote with
  | case1 p h hq =>
    rw [readQuoted, dif_pos h, if_pos hq, List.drop_eq_getElem_cons h, Attribute.readQuoted,
      if_pos hq]
    · exact .ok (by omega) h
    · intro _ _ hback
      exact absurd (hq.symm.trans hback) hquote
  | case2 p h hne hback c hc ih =>
    obtain ⟨hnext, rfl⟩ := List.getElem?_eq_some_iff.mp hc
    rw [readQuoted, dif_pos h, if_neg hne, if_pos hback, hc, List.drop_eq_getElem_cons h,
      List.drop_eq_getElem_cons hnext, hback, Attribute.readQuoted]
    exact ((ih hnext).map fun cs => t[p + 1] :: cs).mono (by omega)
  | case3 p h hne hback hnone =>
    have hend : [] = t.drop (p + 1) :=
      (List.drop_eq_nil_of_le (List.getElem?_eq_none_iff.mp hnone)).symm
    rw [readQuoted, dif_pos h, if_neg hne, if_pos hback, hnone, List.drop_eq_getElem_cons h, ← hend,
      Attribute.readQuoted, if_neg hne, Attribute.readQuoted, hend]
    · exact .fault (by omega) h
    · intro _ _ _ hcons
      cases hcons
  | case4 p h hne hback ih =>
    rw [readQuoted, dif_pos h, if_neg hne, if_neg hback, List.drop_eq_getElem_cons h,
      Attribute.readQuoted, if_neg hne]
    · exact ((ih h).map fun cs => t[p] :: cs).mono (by omega)
    · intro _ _ hback'
      exact absurd hback' hback
  | case5 p h =>
    have hend : [] = t.drop p := (List.drop_eq_nil_of_le (by omega)).symm
    rw [readQuoted, dif_neg h, ← hend, Attribute.readQuoted, hend]
    exact .fault (Nat.le_refl p) hp

theorem readPattern_agrees {inClass : Bool} (hp : p ≤ t.length) :
    Agrees t p (Attribute.readPattern inClass (t.drop p)) (readPattern t inClass p) := by
  induction inClass, p using readPattern.induct t with
  | case1 inClass p h hback c hc ih =>
    obtain ⟨hnext, rfl⟩ := List.getElem?_eq_some_iff.mp hc
    rw [readPattern, dif_pos h, if_pos hback, hc, List.drop_eq_getElem_cons h,
      List.drop_eq_getElem_cons hnext, hback, Attribute.readPattern]
    exact ((ih hnext).map fun cs => '\\' :: t[p + 1] :: cs).mono (by omega)
  | case2 inClass p h hback hnone =>
    have hend : [] = t.drop (p + 1) :=
      (List.drop_eq_nil_of_le (List.getElem?_eq_none_iff.mp hnone)).symm
    rw [readPattern, dif_pos h, if_pos hback, hnone, List.drop_eq_getElem_cons h, ← hend,
      Attribute.readPattern, if_neg (by simp [hback])]
    · dsimp only
      rw [Attribute.readPattern, hend]
      exact .fault (by omega) h
    · intro _ _ _ hcons
      cases hcons
  | case3 inClass p h hback hslash =>
    rw [readPattern, dif_pos h, if_neg hback, if_pos hslash, List.drop_eq_getElem_cons h,
      Attribute.readPattern, if_pos hslash]
    · exact .ok (by omega) h
    · intro _ _ hback'
      exact absurd hback' hback
  | case4 inClass p h hback hslash inside ih =>
    rw [readPattern, dif_pos h, if_neg hback, if_neg hslash, List.drop_eq_getElem_cons h,
      Attribute.readPattern, if_neg hslash]
    · exact ((ih h).map fun cs => t[p] :: cs).mono (by omega)
    · intro _ _ hback'
      exact absurd hback' hback
  | case5 inClass p h =>
    have hend : [] = t.drop p := (List.drop_eq_nil_of_le (by omega)).symm
    rw [readPattern, dif_neg h, ← hend, Attribute.readPattern, hend]
    exact .fault (Nat.le_refl p) hp

theorem readRegex_agrees (hp : p ≤ t.length) :
    Agrees t p (Attribute.readRegex (t.drop p)) (readRegex t p) := by
  unfold Attribute.readRegex readRegex
  apply (readPattern_agrees hp).bind
  intro pattern q _ hq
  obtain ⟨flags, q', hspan, hread, hle, hin⟩ := readWhile_eq isFlagLetter hq
  dsimp only
  rw [hspan, hread]
  dsimp only
  cases Pattern.compile pattern flags with
  | ok _ => exact .ok hle hin
  | error _ => exact .fault hle hin

theorem readPathPart_agrees (hp : p ≤ t.length) :
    Agrees t p (Attribute.readPathPart (t.drop p)) (readPathPart t p) := by
  obtain ⟨hskip, hle, hin⟩ := skipBlanks_eq hp
  obtain ⟨name, q, hname, hread, hle', hin'⟩ := readName_eq hin
  have hpart : ∀ (part : Text) (q : Nat), q ≤ t.length →
      Agrees t q (if part = [] then .error ⟨.path, t.drop q⟩ else .ok (part, t.drop q))
        (if part = [] then .error (.fault .path q) else .ok (part, q)) := by
    intro part q hq
    split
    · exact .fault (Nat.le_refl q) hq
    · exact .ok (Nat.le_refl q) hq
  unfold Attribute.readPathPart readPathPart
  dsimp only
  rw [hskip]
  apply Agrees.mono hle
  split
  case h_3 hsingle hdouble =>
    split
    · next hpeek => exact absurd hpeek (peek_ne hsingle)
    · next hpeek => exact absurd hpeek (peek_ne hdouble)
    · rw [hname, hread]
      exact (hpart name q hin').mono hle'
  all_goals
    next hcons =>
      obtain ⟨hpeek, rfl⟩ := drop_eq_cons_iff.mp hcons
      rw [hpeek]
      apply Agrees.mono (Nat.le_succ _)
      exact (readQuoted_agrees (by decide) (lt_of_peek hpeek)).bind fun part q _ hq =>
        hpart part q hq

theorem readOp_agrees (hp : p ≤ t.length) :
    Agrees t p (Attribute.readOp (t.drop p)) (readOp t p) := by
  obtain ⟨hskip, hle, hin⟩ := skipBlanks_eq hp
  unfold Attribute.readOp readOp
  dsimp only
  rw [hskip]
  apply Agrees.mono hle
  split
  · next r hcons =>
    obtain ⟨hpeek, rfl⟩ := drop_eq_cons_iff.mp hcons
    rw [hpeek]
    exact .ok (Nat.le_succ _) (lt_of_peek hpeek)
  · next c d r hequals hcons =>
    obtain ⟨hpeek, hcons'⟩ := drop_eq_cons_iff.mp hcons
    obtain ⟨hpeek', rfl⟩ := drop_eq_cons_iff.mp hcons'
    have hlt := lt_of_peek hpeek'
    rw [hpeek, hpeek']
    dsimp only
    rw [if_neg hequals]
    cases opOf? c with
    | none => exact .fault (by omega) hlt
    | some op =>
      dsimp only
      split
      · exact .ok (by omega) hlt
      · exact .fault (by omega) hlt
  · next hequals hmore =>
    -- fewer than two characters are left, and no equals sign
    cases hpeek : t[skipBlanks t p]? with
    | none =>
      rw [← List.drop_eq_nil_of_le (List.getElem?_eq_none_iff.mp hpeek)]
      exact .fault (Nat.le_refl _) hin
    | some c =>
      have hne : c ≠ '=' := by
        rintro rfl
        exact peek_ne hequals hpeek
      cases hpeek' : t[skipBlanks t p + 1]? with
      | none =>
        dsimp only
        rw [if_neg hne, ← List.drop_eq_nil_of_le (List.getElem?_eq_none_iff.mp hpeek')]
        exact .fault (Nat.le_succ _) (lt_of_peek hpeek)
      | some d =>
        have hrest := drop_eq_cons_iff.mpr ⟨hpeek', rfl⟩
        exact absurd (drop_eq_cons_iff.mpr ⟨hpeek, hrest⟩) (hmore c d _)

theorem readUnquoted_agrees (allowText : Bool) (hp : p ≤ t.length) :
    Agrees t p (Attribute.readUnquoted allowText (t.drop p)) (readUnquoted t allowText p) := by
  obtain ⟨token, q, hspan, hread, hle, hin⟩ := readWhile_eq isValueChar hp
  unfold Attribute.readUnquoted readUnquoted
  rw [hspan, hread]
  dsimp only
  split
  · exact .ok hle hin
  split
  · exact .ok hle hin
  split
  · exact .ok hle hin
  cases Decimal.read? token with
  | some _ => exact .ok hle hin
  | none => exact .fault hle hin

theorem readCase_eq (hp : p ≤ t.length) :
    ∃ b q, Attribute.readCase (t.drop p) = (b, t.drop q) ∧ readCase t p = (b, q) ∧ p ≤ q ∧
      q ≤ t.length := by
  obtain ⟨hskip, hle, hin⟩ := skipBlanks_eq hp
  unfold Attribute.readCase readCase
  dsimp only
  rw [hskip]
  have hletter : ∀ {c : Char} (b : Bool), t[skipBlanks t p]? = some c → ∃ b' q,
      (b, t.drop (skipBlanks t p + 1)) = (b', t.drop q) ∧ (b, skipBlanks t p + 1) = (b', q) ∧
        p ≤ q ∧ q ≤ t.length :=
    fun b hpeek => ⟨b, _, rfl, rfl, by omega, lt_of_peek hpeek⟩
  split
  case h_5 hi hI hs hS =>
    split
    · next hpeek => exact absurd hpeek (peek_ne hi)
    · next hpeek => exact absurd hpeek (peek_ne hI)
    · next hpeek => exact absurd hpeek (peek_ne hs)
    · next hpeek => exact absurd hpeek (peek_ne hS)
    · exact ⟨true, _, rfl, rfl, hle, hin⟩
  all_goals
    next hcons =>
      obtain ⟨hpeek, rfl⟩ := drop_eq_cons_iff.mp hcons
      rw [hpeek]
      exact hletter _ hpeek

end

end Scenarist.Attribute.Cursor

import Scenarist.Proofs.Attribute.Cursor

/-! # Where the cursor goes

Values, loops and whole bodies by position. No reader moves the cursor back or behind the end of the
text, whatever is cut off there, so the slice of a value is always in the text, faults are reported
at positions of the text, and a body that is read is read to its end.
-/

namespace Scenarist.Attribute.Cursor

/-! ## Values -/

section

variable (t : Text)

def readText (quote : Char) (p : Nat) : Except Halt ((AttributeValue × Bool) × Nat) := do
  let (value, q) ← readQuoted t quote p
  let (caseSensitive, q) := readCase t q
  return ((.text value, caseSensitive), q)

/-- A value, and whether case counts in it. -/
def readValue (allowText : Bool) (op : AttributeOp) (p : Nat) :
    Except Halt ((AttributeValue × Bool) × Nat) :=
  match t[p]? with
  | some '/' =>
    if op ≠ .equals then .error (.fault .regexOperator p)
    else (readRegex t (p + 1)).map fun (v, q) => ((v, true), q)
  | some '\'' => readText t '\'' (p + 1)
  | some '"' => readText t '"' (p + 1)
  | _ => (readUnquoted t allowText p).map fun (v, q) => ((v, true), q)

/-- The text from `p` up to `q`, which must be positions of the text in this order. -/
def slice (p q : Nat) : Except Halt Text :=
  if p ≤ q ∧ q ≤ t.length then .ok ((t.take q).drop p) else .error .outOfRange

end

section

variable {t : Text} {p : Nat} {α β : Type} {x : Except Stop (α × Text)} {y : Except Halt (α × Nat)}

/-- A result of three with its first two put together. -/
def regroup (x : Except Stop (α × β × Text)) : Except Stop ((α × β) × Text) :=
  x.map fun (a, b, rest) => ((a, b), rest)

theorem regroup_map (b : β) (x : Except Stop (α × Text)) :
    regroup (x.map fun (a, rest) => (a, b, rest)) = x.map fun (a, rest) => ((a, b), rest) := by
  cases x <;> rfl

theorem bind_regroup {γ : Type} (x : Except Stop (α × β × Text))
    (f : α × β × Text → Except Stop γ) :
    x >>= f = regroup x >>= fun r => f (r.1.1, r.1.2, r.2) := by
  cases x <;> rfl

theorem readText_agrees {quote : Char} (hquote : quote ≠ '\\') (hp : p ≤ t.length) :
    Agrees t p (regroup (Attribute.readText quote (t.drop p))) (readText t quote p) := by
  unfold Attribute.readText readText regroup
  rw [map_bind]
  apply (readQuoted_agrees hquote hp).bind
  intro value q _ hq
  obtain ⟨b, q', hcase, hread, hle, hin⟩ := readCase_eq hq
  dsimp only
  rw [hcase, hread]
  exact .ok hle hin

theorem readValue_agrees (allowText : Bool) (op : AttributeOp) (hp : p ≤ t.length) :
    Agrees t p (regroup (Attribute.readValue allowText op (t.drop p)))
      (readValue t allowText op p) := by
  unfold Attribute.readValue readValue
  split
  case h_1 hcons =>
    obtain ⟨hpeek, rfl⟩ := drop_eq_cons_iff.mp hcons
    rw [hpeek]
    dsimp only
    split
    · exact .fault (Nat.le_refl p) hp
    · rw [regroup_map]
      exact ((readRegex_agrees (lt_of_peek hpeek)).map fun v => (v, true)).mono (Nat.le_succ p)
  case h_4 hslash hsingle hdouble =>
    split
    · next hpeek => exact absurd hpeek (peek_ne hslash)
    · next hpeek => exact absurd hpeek (peek_ne hsingle)
    · next hpeek => exact absurd hpeek (peek_ne hdouble)
    · rw [regroup_map]
      exact (readUnquoted_agrees allowText hp).map fun v => (v, true)
  all_goals
    next hcons =>
      obtain ⟨hpeek, rfl⟩ := drop_eq_cons_iff.mp hcons
      rw [hpeek]
      exact (readText_agrees (by decide) (lt_of_peek hpeek)).mono (Nat.le_succ p)

theorem slice_eq {p q : Nat} (hle : p ≤ q) (hin : q ≤ t.length) :
    slice t p q = .ok ((t.drop p).take ((t.drop p).length - (t.drop q).length)) := by
  unfold slice
  rw [if_pos ⟨hle, hin⟩, List.drop_take, List.length_drop, List.length_drop]
  congr 2
  omega

theorem left_decreases {c : Char} {a : α} {q : Nat} (hpeek : t[p]? = some c)
    (h : ∃ x, Agrees t (p + 1) x y)
    (hread : y = .ok (a, q)) : t.length - skipBlanks t q < t.length - p := by
  have hlt := lt_of_peek hpeek
  obtain ⟨x, h⟩ := h
  subst hread
  cases h with
  | ok hle hin =>
    have hskip := skipBlanks_eq hin
    omega

end

/-! ## Loops -/

section

variable (t : Text)

/-- As long as `mark` is there: one `item` behind it, and blanks. The loop ends because an item that
is read leaves the cursor inside of the text and not before where it was. -/
def readEach {α : Type} (mark : Char) (item : Nat → Except Halt (α × Nat))
    (hitem : ∀ p ≤ t.length, ∃ x, Agrees t p x (item p)) (p : Nat) : Except Halt (List α × Nat) :=
  if hmark : t[p]? = some mark then
    match hread : item (p + 1) with
    | .ok (a, q) =>
      have := left_decreases hmark (hitem (p + 1) (lt_of_peek hmark)) hread
      (readEach mark item hitem (skipBlanks t q)).map fun (as, q) => (a :: as, q)
    | .error halt => .error halt
  else .ok ([], p)
termination_by t.length - p

/-- The further parts of a path, each behind a point. -/
def readMore (p : Nat) : Except Halt (List Text × Nat) :=
  readEach t '.' (readPathPart t) (fun _ hp => ⟨_, readPathPart_agrees hp⟩) p

def readPath (p : Nat) : Except Halt (List Text × Nat) := do
  let (part, q) ← readPathPart t p
  let (parts, q) ← readMore t (skipBlanks t q)
  return (part :: parts, q)

/-- An attribute behind its opening bracket. -/
def readAttribute (allowText : Bool) (p : Nat) : Except Halt (Attribute × Nat) := do
  let (path, q) ← readPath t p
  if t[q]? = some ']' then return (⟨path, .truthy, .none, false, []⟩, q + 1)
  else
    let (op, q) ← readOp t q
    let start := skipBlanks t q
    let ((value, caseSensitive), q) ← readValue t allowText op start
    let raw ← slice t start q
    let q := skipBlanks t q
    if t[q]? = some ']' then
      if op ≠ .equals ∧ !AttributeValue.isText value then throw (.fault .textOperator (q + 1))
      else return (⟨path, op, value, caseSensitive, Text.trim raw⟩, q + 1)
    else throw (.fault .value q)

end

section

variable {t : Text} {p : Nat}

theorem readEach_of_peek {α : Type} {mark : Char} {item : Nat → Except Halt (α × Nat)}
    {hitem : ∀ p ≤ t.length, ∃ x, Agrees t p x (item p)} (hpeek : t[p]? = some mark) :
    readEach t mark item hitem p = item (p + 1) >>= fun (a, q) =>
      (readEach t mark item hitem (skipBlanks t q)).map fun (as, q) => (a :: as, q) := by
  rw [readEach, dif_pos hpeek]
  split
  · next a q hread =>
    dsimp only
    rw [hread]
    rfl
  · next halt hread =>
    rw [hread]
    rfl

theorem readEach_of_peek_ne {α : Type} {mark : Char} {item : Nat → Except Halt (α × Nat)}
    {hitem : ∀ p ≤ t.length, ∃ x, Agrees t p x (item p)} (hpeek : t[p]? ≠ some mark) :
    readEach t mark item hitem p = .ok ([], p) := by
  rw [readEach, dif_neg hpeek]

theorem readMore_of_peek (hpeek : t[p]? = some '.') : readMore t p = readPath t (p + 1) :=
  readEach_of_peek hpeek

theorem readPath_agrees {n : Nat} (hp : p ≤ t.length) (hn : t.length < p + n) :
    Agrees t p (Attribute.readPath n (t.drop p)) (readPath t p) := by
  -- on the rounds: each takes a point, so there are always more of them than characters left
  induction n generalizing p with
  | zero => omega
  | succ n ih =>
    unfold Attribute.readPath readPath
    apply (readPathPart_agrees hp).bind
    intro part q hle hin
    obtain ⟨hskip, hle', hin'⟩ := skipBlanks_eq hin
    apply Agrees.mono hle'
    dsimp only
    rw [hskip]
    split
    · next r hcons =>
      obtain ⟨hpeek, rfl⟩ := drop_eq_cons_iff.mp hcons
      rw [readMore_of_peek hpeek]
      apply Agrees.mono (Nat.le_succ _)
      exact (ih (lt_of_peek hpeek) (by omega)).bind fun _ _ _ hq => .ok (Nat.le_refl _) hq
    · next hpoint =>
      rw [readMore, readEach_of_peek_ne (peek_ne hpoint)]
      exact .ok (Nat.le_refl _) hin'

theorem readAttribute_agrees (allowText : Bool) (hp : p ≤ t.length) :
    Agrees t p (Attribute.readAttribute allowText (t.drop p)) (readAttribute t allowText p) := by
  unfold Attribute.readAttribute readAttribute
  apply (readPath_agrees hp (by rw [List.length_drop]; omega)).bind
  intro path q hle hin
  dsimp only
  split
  · next r hcons =>
    obtain ⟨hpeek, rfl⟩ := drop_eq_cons_iff.mp hcons
    rw [if_pos hpeek]
    exact .ok (Nat.le_succ _) (lt_of_peek hpeek)
  · next hbracket =>
    rw [if_neg (peek_ne hbracket)]
    apply (readOp_agrees hin).bind
    intro op q _ hin
    obtain ⟨hskip, hle, hin⟩ := skipBlanks_eq hin
    dsimp only
    -- the reader of the rest gives the flag beside the value and not in a pair with it
    rw [hskip, bind_regroup]
    apply Agrees.mono hle
    apply (readValue_agrees allowText op hin).bind
    intro value q hle hin
    obtain ⟨hskip', hle', hin'⟩ := skipBlanks_eq hin
    dsimp only
    rw [slice_eq hle hin, ok_bind, hskip']
    apply Agrees.mono hle'
    split
    · next r hcons =>
      obtain ⟨hpeek, rfl⟩ := drop_eq_cons_iff.mp hcons
      rw [if_pos hpeek]
      split
      · exact .fault (Nat.le_succ _) (lt_of_peek hpeek)
      · exact .ok (Nat.le_succ _) (lt_of_peek hpeek)
    · next hbracket =>
      rw [if_neg (peek_ne hbracket)]
      exact .fault (Nat.le_refl _) hin'

end

/-! ## Bodies -/

section

variable (t : Text)

def readAttributes (allowText : Bool) (p : Nat) : Except Halt (List Attribute × Nat) :=
  readEach t '[' (readAttribute t allowText) (fun _ hp => ⟨_, readAttribute_agrees allowText hp⟩) p

/-- A whole body. It must reach the end of the text. -/
def readBody (allowText : Bool) : Except Halt (AttributeBody × Nat) := do
  let (name, q) := readName t 0
  let (attributes, q) ← readAttributes t allowText (skipBlanks t q)
  if q < t.length then throw (.fault .trailingInput q) else return (⟨name, attributes⟩, q)

end

section

variable {t : Text} {p : Nat} (allowText : Bool)

theorem readAttributes_agrees {n : Nat} (hp : p ≤ t.length) (hn : t.length < p + n) :
    Agrees t p (Attribute.readAttributes allowText n (t.drop p))
      (readAttributes t allowText p) := by
  induction n generalizing p with
  | zero => omega
  | succ n ih =>
    unfold Attribute.readAttributes readAttributes
    split
    · next r hcons =>
      obtain ⟨hpeek, rfl⟩ := drop_eq_cons_iff.mp hcons
      rw [readEach_of_peek hpeek]
      apply Agrees.mono (Nat.le_succ p)
      apply (readAttribute_agrees allowText (lt_of_peek hpeek)).bind
      intro a q hle hin
      obtain ⟨hskip, hle', hin'⟩ := skipBlanks_eq hin
      apply Agrees.mono hle'
      dsimp only
      rw [hskip]
      exact (ih hin' (by omega)).map (a :: ·)
    · next hbracket =>
      rw [readEach_of_peek_ne (peek_ne hbracket)]
      exact .ok (Nat.le_refl p) hp

theorem readBody_agrees :
    Agrees t 0 ((Attribute.readBody allowText t).map fun body => (body, []))
      (readBody t allowText) := by
  obtain ⟨name, q, hname, hread, _, hin⟩ := readName_eq (Nat.zero_le t.length)
  obtain ⟨hskip, _, hin⟩ := skipBlanks_eq hin
  rw [List.drop_zero] at hname
  unfold Attribute.readBody readBody
  rw [hname, hread]
  dsimp only
  rw [hskip, map_bind]
  apply Agrees.mono (Nat.zero_le _)
  apply (readAttributes_agrees allowText hin (by omega)).bind
  intro attributes q _ hin
  dsimp only
  rcases Nat.lt_or_eq_of_le hin with hlt | rfl
  · have hrest : t.drop q ≠ [] := by
      rw [List.drop_eq_getElem_cons hlt]
      exact List.cons_ne_nil _ _
    rw [if_pos hlt, if_pos hrest]
    exact .fault (Nat.le_refl q) hin
  · have hend : t.drop t.length = [] := List.drop_length
    rw [if_neg (Nat.lt_irrefl _), if_neg (not_not.mpr hend)]
    have hok : Agrees t t.length (.ok (AttributeBody.mk name attributes, t.drop t.length))
      (.ok (AttributeBody.mk name attributes, t.length)) := .ok (Nat.le_refl _) hin
    rwa [hend] at hok

end

/-! ## In range -/

/-- What every reader does from a position of the text: it agrees with the reader of the rest, and
so it leaves the cursor not before that position and not behind the end of the text, in a fault too.
The slice up to where a value ends is in the text. Quotes are other characters than the
backslash. -/
structure KeepsCursor (t : Text) (allowText : Bool) (p : Nat) : Prop where
  blanks : Agrees t p (.ok ((), Attribute.skipBlanks (t.drop p))) (.ok ((), skipBlanks t p))
  name : Agrees t p (.ok (Attribute.readName (t.drop p))) (.ok (readName t p))
  quoted : ∀ quote ≠ '\\', Agrees t p (Attribute.readQuoted quote (t.drop p)) (readQuoted t quote p)
  pattern : ∀ inClass,
    Agrees t p (Attribute.readPattern inClass (t.drop p)) (readPattern t inClass p)
  regex : Agrees t p (Attribute.readRegex (t.drop p)) (readRegex t p)
  pathPart : Agrees t p (Attribute.readPathPart (t.drop p)) (readPathPart t p)
  path : Agrees t p (Attribute.readPath ((t.drop p).length + 1) (t.drop p)) (readPath t p)
  op : Agrees t p (Attribute.readOp (t.drop p)) (readOp t p)
  unquoted : Agrees t p (Attribute.readUnquoted allowText (t.drop p)) (readUnquoted t allowText p)
  letter : Agrees t p (.ok (Attribute.readCase (t.drop p))) (.ok (readCase t p))
  text : ∀ quote ≠ '\\',
    Agrees t p (regroup (Attribute.readText quote (t.drop p))) (readText t quote p)
  value : ∀ op,
    Agrees t p (regroup (Attribute.readValue allowText op (t.drop p))) (readValue t allowText op p)
  raw : ∀ op v q, readValue t allowText op p = .ok (v, q) → ∃ raw, slice t p q = .ok raw ∧
    raw.length = q - p
  bracketed : Agrees t p (Attribute.readAttribute allowText (t.drop p))
    (readAttribute t allowText p)
  attributes : ∀ n, t.length < p + n →
    Agrees t p (Attribute.readAttributes allowText n (t.drop p)) (readAttributes t allowText p)

section

variable {t : Text} {p : Nat} (allowText : Bool)

theorem Agrees.ok_inv {α : Type} {a : α} {rest : Text} {y : Except Halt (α × Nat)}
    (h : Agrees t p (.ok (a, rest)) y) :
    ∃ q, y = .ok (a, q) ∧ rest = t.drop q ∧ q ≤ t.length := by
  cases h with
  | ok _ hin => exact ⟨_, rfl, rfl, hin⟩

theorem length_slice {α : Type} {x : Except Stop (α × Text)} {a : α} {q : Nat}
    (h : Agrees t p x (.ok (a, q))) :
    ∃ raw, slice t p q = .ok raw ∧ raw.length = q - p := by
  cases h with
  | ok hle hin =>
    refine ⟨_, slice_eq hle hin, ?_⟩
    simp only [List.length_take, List.length_drop]
    omega

theorem keepsCursor (hp : p ≤ t.length) : KeepsCursor t allowText p where
  blanks := by
    obtain ⟨hskip, hle, hin⟩ := skipBlanks_eq hp
    rw [hskip]
    exact .ok hle hin
  name := by
    obtain ⟨name, q, hname, hread, hle, hin⟩ := readName_eq hp
    rw [hname, hread]
    exact .ok hle hin
  quoted _ hquote := readQuoted_agrees hquote hp
  pattern _ := readPattern_agrees hp
  regex := readRegex_agrees hp
  pathPart := readPathPart_agrees hp
  path := readPath_agrees hp (by rw [List.length_drop]; omega)
  op := readOp_agrees hp
  unquoted := readUnquoted_agrees allowText hp
  letter := by
    obtain ⟨b, q, hcase, hread, hle, hin⟩ := readCase_eq hp
    rw [hcase, hread]
    exact .ok hle hin
  text _ hquote := readText_agrees hquote hp
  value op := readValue_agrees allowText op hp
  raw op v q hread := by
    have h := readValue_agrees allowText op hp
    rw [hread] at h
    exact length_slice h
  bracketed := readAttribute_agrees allowText hp
  attributes _ hn := readAttributes_agrees allowText hp hn

/-- Reading a text and reading a body by position give the same: a body behind which the cursor is
at the end, or a fault where the cursor is. -/
theorem read_eq : match readBody t allowText with
    | .ok (body, q) => q = t.length ∧
        AttributeBody.read allowText t = if body.name = [] ∧ body.attributes = [] then .error .empty
          else .ok body
    | .error (.fault cause q) => q ≤ t.length ∧
      AttributeBody.read allowText t = .error (.at t q cause)
    | .error .outOfRange => False := by
  have h := readBody_agrees (t := t) allowText
  unfold AttributeBody.read
  generalize readBody t allowText = y at h
  cases hbody : Attribute.readBody allowText t with
  | ok body =>
    rw [hbody] at h
    obtain ⟨q, rfl, hrest, hin⟩ := h.ok_inv
    exact ⟨Nat.le_antisymm hin (List.drop_eq_nil_iff.mp hrest.symm), rfl⟩
  | error stop =>
    rw [hbody] at h
    obtain ⟨cause, rest⟩ := stop
    cases h with
    | fault _ hin =>
      refine ⟨hin, ?_⟩
      dsimp only
      rw [List.length_drop, Nat.sub_sub_self hin]

/-- Every reader keeps the cursor in the text and never moves it back, slices stay in the text, a
fault has a position of the text, and a text is read as a body only when the cursor has come to its
end. -/
theorem cursor_in_range (t : Text) :
    (∀ p ≤ t.length, KeepsCursor t allowText p) ∧ readBody t allowText ≠ .error .outOfRange ∧
      (∀ body, AttributeBody.read allowText t = .ok body →
        readBody t allowText = .ok (body, t.length)) ∧
      (AttributeBody.read allowText t = .error .empty →
        readBody t allowText = .ok (⟨[], []⟩, t.length)) ∧
      ∀ source position cause, AttributeBody.read allowText t = .error (.at source position cause) →
        source = t ∧ position ≤ t.length ∧
          readBody t allowText = .error (.fault cause position) := by
  have h := read_eq (t := t) allowText
  refine ⟨fun p hp => keepsCursor allowText hp, ?_⟩
  cases hread : readBody t allowText with
  | ok r =>
    obtain ⟨body, q⟩ := r
    rw [hread] at h
    obtain ⟨rfl, hbody⟩ := h
    rw [hbody]
    split
    · next hempty =>
      obtain ⟨name, attributes⟩ := body
      obtain ⟨rfl, rfl⟩ := hempty
      exact ⟨by simp, by simp, fun _ => rfl, by simp⟩
    · refine ⟨by simp, ?_, by simp, by simp⟩
      rintro _ ⟨⟩
      rfl
  | error halt =>
    cases halt with
    | outOfRange =>
      rw [hread] at h
      exact h.elim
    | fault cause q =>
      rw [hread] at h
      obtain ⟨hin, hbody⟩ := h
      rw [hbody]
      refine ⟨by simp, by simp, by simp, ?_⟩
      rintro _ _ _ ⟨⟩
      exact ⟨rfl, hin, rfl⟩

theorem cursor_in_range_cut_off :
    AttributeBody.read true "[a=\"b\\" = .error (.at "[a=\"b\\" 6 .unterminatedText) ∧
      readBody "[a=\"b\\" true = .error (.fault .unterminatedText 6) := by
  have hread : AttributeBody.read true "[a=\"b\\" = .error (.at "[a=\"b\\" 6 .unterminatedText) :=
    by rfl
  obtain ⟨-, -, -, -, hfault⟩ := cursor_in_range true "[a=\"b\\"
  exact ⟨hread, (hfault _ _ _ hread).2.2⟩

end

end Scenarist.Attribute.Cursor

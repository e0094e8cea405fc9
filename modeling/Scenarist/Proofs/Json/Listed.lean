import Mathlib.Data.List.TakeWhile
import Scenarist.Proofs.Chain.Regular

/-! # Strings and numbers in lists

A string or a number is read off the beginning of a text, and what follows does not bear on it as
long as no more of a number follows. So the items of a list are what the texts between its commas
are read as on their own.
-/

namespace Scenarist.Json

/-! ## What follows -/

/-- The text goes on like one behind an item of a list, or is at its end. -/
def Follows (rest : Text) : Prop := ∀ c ∈ rest.head?, isSpace c = true ∨ c = ',' ∨ c = ']'

theorem follows_cons {c : Char} {r : Text} (h : isSpace c = true ∨ c = ',' ∨ c = ']') :
    Follows (c :: r) := by
  rintro _ ⟨⟩
  exact h

theorem follows_append {a rest : Text} (ha : ∀ c ∈ a, isSpace c = true) (hrest : Follows rest) :
    Follows (a ++ rest) := by
  cases a with
  | nil => exact hrest
  | cons c r => exact follows_cons (.inl (ha c List.mem_cons_self))

theorem Follows.not_part {rest : Text} (h : Follows rest) :
    ∀ c ∈ rest.head?, c.isDigit = false ∧ c ≠ '.' ∧ c ≠ 'e' ∧ c ≠ 'E' := by
  intro c hc
  have hcases : c = ' ' ∨ c = '\n' ∨ c = '\t' ∨ c = '\r' ∨ c = ',' ∨ c = ']' := by
    simpa [isSpace, or_assoc] using h c hc
  rcases hcases with rfl | rfl | rfl | rfl | rfl | rfl <;> decide

/-! ## Numbers -/

/-- The reader takes the text as the number whatever follows. -/
def TakesAs (reader : Reader Number) (m : Text) (n : Number) : Prop :=
  ∀ rest, Follows rest → reader (m ++ rest) = .ok (n, rest)

/-- What is taken of a text is taken as the same number whatever follows. -/
def IsLocal (reader : Reader Number) : Prop :=
  ∀ t n rest, reader t = .ok (n, rest) → Follows rest → ∃ m, t = m ++ rest ∧ TakesAs reader m n

/-- The reader takes a run of digits and goes on with `tail` of them. -/
structure GoesOn (reader : Reader Number) (tail : Text → Reader Number) : Prop where
  begins : ∀ t p, reader t = .ok p → t.takeWhile Char.isDigit ≠ []
  rest : ∀ t, t.takeWhile Char.isDigit ≠ [] →
    reader t = tail (t.takeWhile Char.isDigit) (t.dropWhile Char.isDigit)
  tail : ∀ run, IsLocal (tail run)

theorem begun_of_ok {run t : Text} {atEnd inside : Fault} {r : Except Fault (Number × Text)}
    {p : Number × Text}
    (h : (if run = [] then if t = [] then .error atEnd else .error inside else r) = .ok p) :
      run ≠ [] := by
  intro hnil
  rw [if_pos hnil] at h
  split at h <;> cases h

theorem takeWhile_run {run rest : Text} (hrun : ∀ c ∈ run, c.isDigit = true)
    (hrest : ∀ c ∈ rest.head?, c.isDigit = false) :
    (run ++ rest).takeWhile Char.isDigit = run ∧ (run ++ rest).dropWhile Char.isDigit = rest := by
  have htake : rest.takeWhile Char.isDigit = [] := by
    cases rest with
    | nil => rfl
    | cons c r => simp [hrest c rfl]
  have hdrop : rest.dropWhile Char.isDigit = rest := by
    cases rest with
    | nil => rfl
    | cons c r => simp [hrest c rfl]
  rw [List.takeWhile_append_of_pos hrun, List.dropWhile_append_of_pos hrun, htake, hdrop,
    List.append_nil]
  exact ⟨rfl, rfl⟩

theorem GoesOn.begins_local {reader : Reader Number} {tail : Text → Reader Number}
    (h : GoesOn reader tail)
    {t rest : Text} {n : Number} (hread : reader t = .ok (n, rest)) (hrest : Follows rest) :
    ∃ c m, t = c :: m ++ rest ∧ c.isDigit = true ∧ TakesAs reader (c :: m) n := by
  have hne := h.begins t _ hread
  have ht : t.takeWhile Char.isDigit ++ t.dropWhile Char.isDigit = t :=
    List.takeWhile_append_dropWhile
  have hdigits : ∀ c ∈ t.takeWhile Char.isDigit, c.isDigit = true := fun _ => List.mem_takeWhile_imp
  have hafter : ∀ c ∈ (t.dropWhile Char.isDigit).head?, c.isDigit = false := by
    intro c hc
    have hnot := List.head?_dropWhile_not Char.isDigit t
    rwa [Option.mem_def.mp hc] at hnot
  rw [h.rest t hne] at hread
  obtain ⟨m, hm, htakes⟩ := h.tail _ _ _ _ hread hrest
  rw [hm] at ht hafter
  generalize t.takeWhile Char.isDigit = run at *
  obtain ⟨c, digits, rfl⟩ := List.exists_cons_of_ne_nil hne
  refine ⟨c, digits ++ m, by rw [← ht]; simp, hdigits c List.mem_cons_self, fun rest' hrest' => ?_⟩
  have hstop : ∀ d ∈ (m ++ rest').head?, d.isDigit = false := by
    cases m with
    | nil => exact fun d hd => (hrest'.not_part d hd).1
    | cons d r => exact hafter
  obtain ⟨htake, hdrop⟩ := takeWhile_run hdigits hstop
  have heq : c :: (digits ++ m) ++ rest' = c :: digits ++ (m ++ rest') := by simp
  rw [heq, h.rest _ (by rw [htake]; exact hne), htake, hdrop]
  exact htakes rest' hrest'

theorem GoesOn.isLocal {reader : Reader Number} {tail : Text → Reader Number}
    (h : GoesOn reader tail) :
    IsLocal reader := by
  intro t n rest hread hrest
  obtain ⟨c, m, ht, -, hm⟩ := h.begins_local hread hrest
  exact ⟨c :: m, ht, hm⟩

/-- The reader takes nothing, and gives the same wherever it stands. -/
def IsEnd (reader : Reader Number) : Prop :=
  ∀ t n rest, reader t = .ok (n, rest) → rest = t ∧ ∀ u, reader u = .ok (n, u)

theorem assemble_isEnd (negative : Bool) (s : Nat) (e : Int) : IsEnd (assemble negative s e) := by
  intro t n rest h
  unfold assemble at h ⊢
  split at h
  · cases h
    exact ⟨rfl, fun _ => rfl⟩
  · cases h

theorem IsEnd.local {reader final : Reader Number} (h : IsEnd final)
    (hfinal : ∀ u, Follows u → reader u = final u)
    {t rest : Text} {n : Number} (hread : final t = .ok (n, rest)) :
      ∃ m, t = m ++ rest ∧ TakesAs reader m n := by
  obtain ⟨rfl, hany⟩ := h _ _ _ hread
  exact ⟨[], rfl, fun rest' hrest' => (hfinal rest' hrest').trans (hany rest')⟩

/-- The exponent behind its sign. -/
def exponentBody (negative : Bool) (significand : Nat) (e : Int) (down : Bool) : Reader Number :=
  fun digits =>
  let run := digits.takeWhile Char.isDigit
  let rest := digits.dropWhile Char.isDigit
  if run = [] then
    if digits = [] then faultAt .endInValue [] else faultInto .invalidNumber digits
  else match exponentDigits 0 run with
    | .ok k => assemble negative significand (if down then e - k else e + k) rest
    | .error after =>
      if significand ≠ 0 ∧ !down then faultAt .numberOutOfRange (after ++ rest)
      else .ok (.real (.zero negative), rest)

theorem exponentTail_unsigned {t : Text} (hplus : ∀ r, t ≠ '+' :: r) (hminus : ∀ r, t ≠ '-' :: r)
    (negative : Bool)
    (s : Nat) (e : Int) : exponentTail negative s e t = exponentBody negative s e false t := by
  unfold exponentTail
  split
  rename_i heq
  split at heq
  · exact absurd rfl (hplus _)
  · exact absurd rfl (hminus _)
  · cases heq
    rfl

theorem exponentBody_goesOn (negative : Bool) (s : Nat) (e : Int) (down : Bool) :
    GoesOn (exponentBody negative s e down) fun run rest =>
      match exponentDigits 0 run with
      | .ok k => assemble negative s (if down then e - k else e + k) rest
      | .error after =>
        if s ≠ 0 ∧ !down then faultAt .numberOutOfRange (after ++ rest)
          else .ok (.real (.zero negative), rest) where
  begins t p h := begun_of_ok h
  rest t hne := if_neg hne
  tail run := by
    intro t n rest h _
    dsimp only [TakesAs] at h ⊢
    split at h
    · exact (assemble_isEnd _ _ _).local (fun _ _ => rfl) h
    · split at h
      · cases h
      · rename_i hsmall
        cases h
        exact ⟨[], rfl, fun rest' _ => if_neg hsmall⟩

theorem exponentTail_local (negative : Bool) (s : Nat) (e : Int) :
    IsLocal (exponentTail negative s e) := by
  intro t n rest h hrest
  by_cases hplus : ∃ r, t = '+' :: r
  · obtain ⟨r, rfl⟩ := hplus
    obtain ⟨m, rfl, hm⟩ := (exponentBody_goesOn negative s e false).isLocal _ _ _ h hrest
    exact ⟨'+' :: m, rfl, hm⟩
  by_cases hminus : ∃ r, t = '-' :: r
  · obtain ⟨r, rfl⟩ := hminus
    obtain ⟨m, rfl, hm⟩ := (exponentBody_goesOn negative s e true).isLocal _ _ _ h hrest
    exact ⟨'-' :: m, rfl, hm⟩
  · rw [exponentTail_unsigned (not_exists.mp hplus) (not_exists.mp hminus)] at h
    obtain ⟨c, m, rfl, hc, hm⟩ := (exponentBody_goesOn negative s e false).begins_local h hrest
    refine ⟨c :: m, rfl, fun rest' hrest' => ?_⟩
    have hdigit : ∀ (d : Char) (r : Text), d.isDigit = false → c :: m ++ rest' ≠ d :: r := by
      rintro d r hd heq
      rw [(List.cons.inj heq).1] at hc
      exact absurd hc (by simp [hd])
    rw [exponentTail_unsigned (fun r => hdigit _ r rfl) (fun r => hdigit _ r rfl)]
    exact hm rest' hrest'

theorem local_behind {reader tail : Reader Number} {mark : Char} (htail : IsLocal tail)
    (hmark : ∀ r, reader (mark :: r) = tail r) {r rest : Text} {n : Number}
    (h : tail r = .ok (n, rest))
    (hrest : Follows rest) : ∃ m, mark :: r = m ++ rest ∧ TakesAs reader m n := by
  obtain ⟨m, rfl, hm⟩ := htail _ _ _ h hrest
  exact ⟨mark :: m, rfl, fun rest' hrest' => (hmark _).trans (hm rest' hrest')⟩

theorem fractionTail_goesOn (negative : Bool) (s : Nat) (e : Int) :
    GoesOn (fractionTail negative s e) fun run rest =>
      match rest with
      | c :: r =>
        if c = 'e' ∨ c = 'E' then exponentTail negative (absorb s run).1 (e - (absorb s run).2) r
        else assemble negative (absorb s run).1 (e - (absorb s run).2) rest
      | [] => assemble negative (absorb s run).1 (e - (absorb s run).2) rest where
  begins t p h := begun_of_ok h
  rest t hne := if_neg hne
  tail run := by
    intro t n rest h hrest
    have hend := assemble_isEnd negative (absorb s run).1 (e - (absorb s run).2)
    have hfollows : ∀ u : Text, Follows u → (match u with
        | c :: r =>
          if c = 'e' ∨ c = 'E' then exponentTail negative (absorb s run).1 (e - (absorb s run).2) r
          else assemble negative (absorb s run).1 (e - (absorb s run).2) u
        | [] => assemble negative (absorb s run).1 (e - (absorb s run).2) u) =
        assemble negative (absorb s run).1 (e - (absorb s run).2) u := by
      intro u hu
      split
      · obtain ⟨-, -, he, hE⟩ := hu.not_part _ rfl
        exact if_neg (not_or.mpr ⟨he, hE⟩)
      · rfl
    dsimp only at h
    split at h
    · split at h
      · rename_i hletter
        exact local_behind (exponentTail_local _ _ _) (fun r => if_pos hletter) h hrest
      · exact hend.local hfollows h
    · exact hend.local hfollows h

theorem whole_isEnd (negative : Bool) (s : Nat) (dropped : Int) :
    IsEnd fun t => if dropped = 0 then .ok (wholeNumber negative s, t)
      else assemble negative s dropped t := by
  intro t n rest h
  dsimp only at h ⊢
  split at h
  · rename_i hall
    cases h
    exact ⟨rfl, fun _ => if_pos hall⟩
  · rename_i hsome
    obtain ⟨hrest, hany⟩ := assemble_isEnd _ _ _ _ _ _ h
    exact ⟨hrest, fun u => (if_neg hsome).trans (hany u)⟩

theorem numberBody_goesOn (negative : Bool) : GoesOn (numberBody negative) fun run rest =>
    if run.head? = some '0' ∧ 1 < run.length then faultInto .invalidNumber (run.tail ++ rest)
    else
      let s := (absorb 0 run).1
      let dropped : Int := (run.length - (absorb 0 run).2 : Nat)
      match rest with
      | '.' :: r => fractionTail negative s dropped r
      | 'e' :: r | 'E' :: r => exponentTail negative s dropped r
      | _ => if dropped = 0 then .ok (wholeNumber negative s, rest)
          else assemble negative s dropped rest where
  begins t p h hnil := by
    unfold numberBody at h
    dsimp only at h
    split at h
    · cases h
    · rw [if_pos hnil] at h
      cases h
  rest t hne := by
    cases t with
    | nil => exact absurd rfl hne
    | cons c behind =>
      have hc : c.isDigit = true := by
        by_contra hnot
        exact hne (List.takeWhile_cons_of_neg hnot)
      unfold numberBody
      dsimp only
      rw [if_neg hne, List.takeWhile_cons_of_pos hc, List.dropWhile_cons_of_pos hc, List.head?_cons,
        List.tail_cons, List.takeWhile_append_dropWhile]
      exact if_congr (and_congr_left' Option.some_inj.symm) rfl rfl
  tail run := by
    intro t n rest h hrest
    dsimp only at h
    split at h
    · cases h
    rename_i hzero
    have hend := whole_isEnd negative (absorb 0 run).1 (run.length - (absorb 0 run).2 : Nat)
    split at h
    · exact local_behind (fractionTail_goesOn _ _ _).isLocal (fun r => if_neg hzero) h hrest
    · exact local_behind (exponentTail_local _ _ _) (fun r => if_neg hzero) h hrest
    · exact local_behind (exponentTail_local _ _ _) (fun r => if_neg hzero) h hrest
    · refine hend.local (fun u hu => (if_neg hzero).trans ?_) h
      have hpart := hu.not_part
      dsimp only
      split
      · exact absurd rfl (hpart _ rfl).2.1
      · exact absurd rfl (hpart _ rfl).2.2.1
      · exact absurd rfl (hpart _ rfl).2.2.2
      · rfl

/-! ## Values -/

/-- A string or a number. -/
def IsPlain (v : Json) : Prop := (∃ s, v = .string s) ∨ ∃ n, v = .number n

/-- The text writes the value, whatever follows and however many brackets are open. -/
def IsWritten (m : Text) (v : Json) : Prop :=
  ∀ depth rest, Follows rest → value depth (m ++ rest) = .ok (v, rest)

theorem value_blanks {a : Text} (ha : ∀ c ∈ a, isSpace c = true) (depth : Nat) (t : Text) :
    value depth (a ++ t) = value depth t := by
  have hskip : skipSpace (a ++ t) = skipSpace t := List.dropWhile_append_of_pos ha
  unfold value
  rw [hskip]

theorem value_number {depth : Nat} {t rest : Text} {n : Number}
    (h : value depth t = .ok (.number n, rest)) :
    (∃ r, skipSpace t = '-' :: r ∧ numberBody true r = .ok (n, rest)) ∨
      ∃ c r, skipSpace t = c :: r ∧ c.isDigit = true ∧
        numberBody false (c :: r) = .ok (n, rest) := by
  have hreads := value_reads h
  generalize skipSpace t = u at hreads
  cases hreads with
  | minus hbody => exact .inl ⟨_, rfl, hbody⟩
  | digit hc hbody => exact .inr ⟨_, _, rfl, hc, hbody⟩
  | object _ _ hv => cases hv

theorem value_mark (depth : Nat) (r : Text) :
    value depth ('"' :: r) = (stringBody 0 r).map fun p => (.string p.1, p.2) := by
  rw [value, skipSpace_cons _ rfl]
  change (stringBody 0 r >>= _) = _
  cases stringBody 0 r <;> rfl

theorem value_minus (depth : Nat) (r : Text) :
    value depth ('-' :: r) = (numberBody true r).map fun p => (.number p.1, p.2) := by
  rw [value, skipSpace_cons _ rfl]
  change (numberBody true r >>= _) = _
  cases numberBody true r <;> rfl

theorem value_digit {c : Char} (hc : c.isDigit = true) (depth : Nat) (r : Text) :
    value depth (c :: r) = (numberBody false (c :: r)).map fun p => (.number p.1, p.2) := by
  have hspace : isSpace c = false := by
    by_contra hblank
    have hfollows := follows_cons (c := c) (r := r) (.inl (Bool.not_eq_false _ ▸ hblank))
    exact absurd hc (by simp [(hfollows.not_part c rfl).1])
  have hnot : ∀ d : Char, d.isDigit = false → c ≠ d := by
    rintro d hd rfl
    exact absurd hc (by simp [hd])
  unfold value
  rw [skipSpace_cons _ hspace]
  split
  · rename_i heq
    cases heq
  iterate 7
    · rename_i heq
      exact absurd (List.cons.inj heq).1 (hnot _ rfl)
  · rename_i heq
    cases heq
    rw [if_pos hc]
    cases numberBody false (c :: r) <;> rfl

theorem isWritten_of_value {depth : Nat} {t rest : Text} {v : Json} (hv : v.IsPlain)
    (h : value depth t = .ok (v, rest)) (hrest : Follows rest) :
      ∃ m, t = m ++ rest ∧ IsWritten m v := by
  obtain ⟨a, ht, ha⟩ := exists_skipSpace t
  rcases hv with ⟨s, rfl⟩ | ⟨n, rfl⟩
  · obtain ⟨r, hr, hbody⟩ := value_string h
    obtain ⟨body, rfl, hwrites⟩ := stringBody_eq_ok_iff.mp hbody
    refine ⟨a ++ '"' :: (body ++ ['"']), by rw [ht, hr]; simp, fun depth' rest' _ => ?_⟩
    have heq : a ++ '"' :: (body ++ ['"']) ++ rest' = a ++ '"' :: (body ++ '"' :: rest') := by simp
    rw [heq, value_blanks ha, value_mark, stringBody_writes hwrites]
    rfl
  · rcases value_number h with ⟨r, hr, hbody⟩ | ⟨c, r, hr, hc, hbody⟩
    · obtain ⟨c, m, rfl, -, hm⟩ := (numberBody_goesOn true).begins_local hbody hrest
      refine ⟨a ++ '-' :: c :: m, by rw [ht, hr]; simp, fun depth' rest' hrest' => ?_⟩
      rw [List.append_assoc, value_blanks ha, List.cons_append, value_minus, hm rest' hrest']
      rfl
    · obtain ⟨d, m, hm, -, htakes⟩ := (numberBody_goesOn false).begins_local hbody hrest
      obtain ⟨rfl, rfl⟩ := List.cons.inj hm
      refine ⟨a ++ c :: m, by rw [ht, hr]; simp, fun depth' rest' hrest' => ?_⟩
      rw [List.append_assoc, value_blanks ha, List.cons_append, value_digit hc, ← List.cons_append,
        htakes rest' hrest']
      rfl

theorem follows_blanks {a : Text} (ha : ∀ c ∈ a, isSpace c = true) : Follows a :=
  List.append_nil a ▸ follows_append ha nofun

theorem read_eq_ok_iff {t : Text} {v : Json} (hv : v.IsPlain) :
    read t = .ok v ↔ ∃ m a, t = m ++ a ∧ IsWritten m v ∧ ∀ c ∈ a, isSpace c = true := by
  rw [read, whole]
  constructor
  · intro h
    obtain ⟨⟨w, rest⟩, hvalue, h⟩ := bind_eq_ok_iff.mp h
    obtain ⟨_, hend, h⟩ := bind_eq_ok_iff.mp h
    cases h
    have hblanks := atEnd_eq_ok_iff.mp hend
    obtain ⟨m, rfl, hm⟩ := isWritten_of_value hv hvalue (follows_blanks hblanks)
    exact ⟨m, rest, rfl, hm, hblanks⟩
  · rintro ⟨m, a, rfl, hm, ha⟩
    rw [hm depthLimit a (follows_blanks ha), ok_bind]
    dsimp only
    rw [atEnd_eq_ok_iff.mpr ha]
    rfl

/-! ## Items -/

theorem value_skipSpace (depth : Nat) (t : Text) : value depth (skipSpace t) = value depth t := by
  obtain ⟨a, ht, ha⟩ := exists_skipSpace t
  have hskip := value_blanks ha depth (skipSpace t)
  rwa [← ht, eq_comm] at hskip

theorem value_nil (depth : Nat) : value depth [] = faultAt .endInValue [] := by
  rw [value]
  rfl

theorem value_bracket (depth : Nat) (r : Text) :
    value depth (']' :: r) = faultInto .expectedValue (']' :: r) := by
  rw [value, skipSpace_cons _ rfl]
  rfl

theorem items_end {d n : Nat} {first : Bool} {t rest : Text} :
    items (value d) (n + 1) first t = .ok ([], rest) ↔ skipSpace t = ']' :: rest := by
  rw [items]
  split
  · rename_i hs
    simp [hs, faultAt]
  · rename_i r hs
    rw [hs]
    constructor
    · rintro ⟨⟩
      rfl
    · rintro ⟨⟩
      rfl
  · rename_i c r hopen hs
    constructor
    · intro h
      obtain ⟨_, -, h⟩ := bind_eq_ok_iff.mp h
      obtain ⟨_, -, h⟩ := bind_eq_ok_iff.mp h
      obtain ⟨_, -, h⟩ := bind_eq_ok_iff.mp h
      cases h
    · intro h
      exact absurd (List.cons.inj (hs.symm.trans h)).1 hopen

theorem item_eq_ok_iff {d n : Nat} {start rest : Text} {v : Json} {vs : List Json} :
    (do
      let (v, after) ← value d start
      let (vs, rest) ← items (value d) n false after
      return (v :: vs, rest)) = (.ok (v :: vs, rest) : Except Fault (List Json × Text)) ↔
      ∃ after, value d start = .ok (v, after) ∧ items (value d) n false after = .ok (vs, rest) := by
  constructor
  · intro h
    obtain ⟨⟨w, after⟩, hw, h⟩ := bind_eq_ok_iff.mp h
    obtain ⟨⟨ws, rest'⟩, hws, h⟩ := bind_eq_ok_iff.mp h
    cases h
    exact ⟨after, hw, hws⟩
  · rintro ⟨after, hv, hvs⟩
    rw [hv, ok_bind]
    dsimp only
    rw [hvs]
    rfl

theorem no_item {d : Nat} {start : Text} {v : Json} {next : Text → Prop} {f : Fault}
    (h : value d start = .error f) : ¬ ∃ after, value d start = .ok (v, after) ∧ next after := by
  rintro ⟨after, hv, -⟩
  cases h.symm.trans hv

theorem items_first {d n : Nat} {t rest : Text} {v : Json} {vs : List Json} :
    items (value d) (n + 1) true t = .ok (v :: vs, rest) ↔
      ∃ after, value d t = .ok (v, after) ∧ items (value d) n false after = .ok (vs, rest) := by
  rw [items, ← value_skipSpace]
  split
  · rename_i hs
    rw [hs]
    exact iff_of_false (by rintro ⟨⟩) (no_item (value_nil d))
  · rename_i r hs
    rw [hs]
    exact iff_of_false (by rintro ⟨⟩) (no_item (value_bracket d r))
  · rename_i c r _ hs
    rw [hs]
    exact item_eq_ok_iff

theorem items_more {d n : Nat} {t rest : Text} {v : Json} {vs : List Json} :
    items (value d) (n + 1) false t = .ok (v :: vs, rest) ↔
      ∃ t' after, skipSpace t = ',' :: t' ∧ value d t' = .ok (v, after) ∧
        items (value d) n false after = .ok (vs, rest) := by
  rw [items]
  split
  · rename_i hs
    rw [hs]
    exact iff_of_false (by rintro ⟨⟩) (by rintro ⟨_, _, ⟨⟩, -⟩)
  · rename_i r hs
    rw [hs]
    exact iff_of_false (by rintro ⟨⟩) (by rintro ⟨_, _, ⟨⟩, -⟩)
  · rename_i c r _ hs
    rw [hs]
    unfold items.nextItem
    rw [if_neg Bool.false_ne_true]
    by_cases hc : c = ','
    · subst hc
      rw [if_pos rfl]
      have hnext : (∃ t' after, ',' :: r = ',' :: t' ∧ value d t' = .ok (v, after) ∧
          items (value d) n false after = .ok (vs, rest)) ↔
          ∃ after, value d r = .ok (v, after) ∧ items (value d) n false after = .ok (vs, rest) := by
        simp
      rw [hnext, ← value_skipSpace]
      split
      · rename_i hr
        rw [hr]
        exact iff_of_false (by rintro ⟨⟩) (no_item (value_nil d))
      · rename_i hr
        rw [hr]
        exact iff_of_false (by rintro ⟨⟩) (no_item (value_bracket d _))
      · exact item_eq_ok_iff
    · rw [if_neg hc]
      refine iff_of_false (by rintro ⟨⟩) ?_
      rintro ⟨t', after, heq, -⟩
      exact hc (List.cons.inj heq).1

/-! ## Lists -/

theorem readList_eq_ok_iff {body : Text} {vs : List Json} :
    readList ('[' :: body ++ [']']) = .ok vs ↔ ∃ rest,
      items (value (depthLimit - 1)) (body.length + 2) true (body ++ [']']) = .ok (vs, rest) ∧
        ∀ c ∈ rest, isSpace c = true := by
  have hlength : (body ++ [']']).length + 1 = body.length + 2 := by simp
  rw [readList, whole, List.cons_append, skipSpace_cons _ rfl]
  change (items (value (depthLimit - 1)) ((body ++ [']']).length + 1) true (body ++ [']']) >>= _) =
    _ ↔ _
  rw [hlength]
  constructor
  · intro h
    obtain ⟨⟨ws, rest⟩, hitems, h⟩ := bind_eq_ok_iff.mp h
    obtain ⟨_, hend, h⟩ := bind_eq_ok_iff.mp h
    cases h
    exact ⟨rest, hitems, atEnd_eq_ok_iff.mp hend⟩
  · rintro ⟨rest, hitems, hblanks⟩
    rw [hitems, ok_bind]
    dsimp only
    rw [atEnd_eq_ok_iff.mpr hblanks]
    rfl

theorem bracket_last {body x rest : Text} (h : body ++ [']'] = x ++ ']' :: rest)
    (hrest : ∀ c ∈ rest, isSpace c = true) : body = x ∧ rest = [] := by
  rcases List.eq_nil_or_concat rest with rfl | ⟨r, last, rfl⟩
  · exact ⟨(List.append_inj' h rfl).1, rfl⟩
  · have heq : body ++ [']'] = (x ++ ']' :: r) ++ [last] := by simpa using h
    obtain rfl : ']' = last := List.cons.inj (List.append_inj' heq rfl).2 |>.1
    exact absurd (hrest ']' (by simp)) (by decide)

theorem skipSpace_append {a : Text} (ha : ∀ c ∈ a, isSpace c = true) {c : Char}
    (hc : isSpace c = false) (r : Text) :
    skipSpace (a ++ c :: r) = c :: r :=
  (List.dropWhile_append_of_pos ha).trans (skipSpace_cons r hc)

theorem readList_one_iff {body : Text} {v : Json} (hv : v.IsPlain) :
    readList ('[' :: body ++ [']']) = .ok [v] ↔ read body = .ok v := by
  rw [readList_eq_ok_iff, read_eq_ok_iff hv]
  constructor
  · rintro ⟨rest, hitems, hblanks⟩
    obtain ⟨after, hvalue, hend⟩ := items_first.mp hitems
    obtain ⟨a, hafter, ha⟩ := exists_skipSpace after
    rw [items_end.mp hend] at hafter
    subst hafter
    obtain ⟨m, hm, hwritten⟩ :=
      isWritten_of_value hv hvalue (follows_append ha (follows_cons (.inr (.inr rfl))))
    rw [← List.append_assoc] at hm
    exact ⟨m, a, (bracket_last hm hblanks).1, hwritten, ha⟩
  · rintro ⟨m, a, rfl, hwritten, ha⟩
    refine ⟨[], items_first.mpr ⟨a ++ [']'], ?_, items_end.mpr (skipSpace_append ha rfl [])⟩, nofun⟩
    rw [List.append_assoc]
    exact hwritten _ _ (follows_append ha (follows_cons (.inr (.inr rfl))))

/-- A list has two items, strings or numbers, just if a comma stands between texts that are read as
these. -/
theorem readList_two_iff {body : Text} {v w : Json} (hv : v.IsPlain) (hw : w.IsPlain) :
    readList ('[' :: body ++ [']']) = .ok [v, w] ↔
      ∃ x y, body = x ++ ',' :: y ∧ read x = .ok v ∧ read y = .ok w := by
  rw [readList_eq_ok_iff]
  constructor
  · rintro ⟨rest, hitems, hblanks⟩
    obtain ⟨after, hvalue, hitems⟩ := items_first.mp hitems
    obtain ⟨t, behind, hcomma, hvalue', hend⟩ := items_more.mp hitems
    obtain ⟨a, hafter, ha⟩ := exists_skipSpace after
    obtain ⟨b, hbehind, hb⟩ := exists_skipSpace behind
    rw [hcomma] at hafter
    subst hafter
    obtain ⟨m, hm, hwritten⟩ :=
      isWritten_of_value hv hvalue (follows_append ha (follows_cons (.inr (.inl rfl))))
    cases body with
    | nil =>
      rw [List.nil_append, value_bracket] at hvalue
      cases hvalue
    | cons c r =>
      rw [items_end.mp hend] at hbehind
      subst hbehind
      obtain ⟨k, rfl, hwritten'⟩ :=
        isWritten_of_value hw hvalue' (follows_append hb (follows_cons (.inr (.inr rfl))))
      have hbody : c :: r ++ [']'] = (m ++ a ++ ',' :: (k ++ b)) ++ ']' :: rest := by rw [hm]; simp
      refine ⟨m ++ a, k ++ b, (bracket_last hbody hblanks).1, ?_, ?_⟩
      · exact (read_eq_ok_iff hv).mpr ⟨m, a, rfl, hwritten, ha⟩
      · exact (read_eq_ok_iff hw).mpr ⟨k, b, rfl, hwritten', hb⟩
  · rintro ⟨x, y, rfl, hx, hy⟩
    obtain ⟨m, a, rfl, hwritten, ha⟩ := (read_eq_ok_iff hv).mp hx
    obtain ⟨k, b, rfl, hwritten', hb⟩ := (read_eq_ok_iff hw).mp hy
    have hlength : (m ++ a ++ ',' :: (k ++ b)).length + 2 = ((m ++ a ++ (k ++ b)).length + 1) + 1 +
        1 := by simp; omega
    have hlast : items (value (depthLimit - 1)) ((m ++ a ++ (k ++ b)).length + 1) false
        (b ++ [']']) = .ok ([], []) :=
      items_end.mpr (skipSpace_append hb rfl [])
    have hmore := items_more.mpr ⟨_, _, skipSpace_append ha rfl (k ++ (b ++ [']'])),
      hwritten' _ _ (follows_append hb (follows_cons (.inr (.inr rfl)))), hlast⟩
    have hfirst :=
      items_first.mpr ⟨_, hwritten _ _ (follows_append ha (follows_cons (.inr (.inl rfl)))), hmore⟩
    rw [hlength]
    exact ⟨[], by simpa using hfirst, nofun⟩

end Scenarist.Json

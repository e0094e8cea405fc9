import Mathlib.Data.List.TakeWhile
import Scenarist.Proofs.Json.Quoted

/-! # String literals

Between its quotes a string is written character by character, and most characters can be written in
several ways. The string reader takes such a body and the quote behind it off the beginning of a
text, whatever follows, and it takes nothing else.
-/

namespace Scenarist.Json

/-! ## Bodies -/

/-- Four hexadecimal digits that write `n`. -/
def IsCode (digits : Text) (n : Nat) : Prop := digits.length = 4 ∧ Text.toNat? 16 digits = some n

/-- What writes one character between quotes. A code beyond the first plane is written as two
surrogates. -/
inductive WritesChar : (written : Text) → Char → Prop where
  | itself (c : Char) (printable : ' ' ≤ c) (quote : c ≠ '"') (escape : c ≠ '\\') : WritesChar [c] c
  | letter (l c : Char) (h : letterEscape? l = some c) : WritesChar ['\\', l] c
  | code (digits : Text) (n : Nat) (h : IsCode digits n) (single : ¬ (0xD800 ≤ n ∧ n ≤ 0xDFFF)) :
    WritesChar ('\\' :: 'u' :: digits) (Char.ofNat n)
  | pair (high low : Text) (m n : Nat) (hm : IsCode high m) (hn : IsCode low n)
      (first : 0xD800 ≤ m ∧ m ≤ 0xDBFF)
      (second : 0xDC00 ≤ n ∧ n ≤ 0xDFFF) :
    WritesChar ('\\' :: 'u' :: (high ++ '\\' :: 'u' :: low))
      (Char.ofNat ((m - 0xD800) * 0x400 + (n - 0xDC00) + 0x10000))

/-- What writes a text between quotes. -/
inductive Writes : (body t : Text) → Prop where
  | nil : Writes [] []
  | cons {written body t : Text} {c : Char} (first : WritesChar written c) (rest : Writes body t) :
    Writes (written ++ body) (c :: t)

/-! ## Escapes -/

theorem fourDigits_eq_ok_iff {t : Text} {n : Nat} :
    fourDigits t = .ok n ↔ ∃ digits rest : Text, t = digits ++ rest ∧ IsCode digits n := by
  unfold fourDigits
  constructor
  · intro h
    split at h
    · cases h
    split at h
    · rename_i a b c d rest _
      split at h
      · rename_i hdigits
        cases h
        exact ⟨[a, b, c, d], rest, rfl, rfl, hdigits⟩
      · cases h
    · cases h
  · rintro ⟨digits, rest, rfl, hlength, hdigits⟩
    obtain ⟨a, b, c, d, rfl⟩ : ∃ a b c d, digits = [a, b, c, d] := by
      rcases digits with _ | ⟨a, _ | ⟨b, _ | ⟨c, _ | ⟨d, _ | ⟨e, r⟩⟩⟩⟩⟩ <;> simp at hlength
      exact ⟨a, b, c, d, rfl⟩
    have hbytes : ¬ Text.utf8Length ([a, b, c, d] ++ rest) < 4 := by
      have ha := a.utf8Size_pos
      have hb := b.utf8Size_pos
      have hc := c.utf8Size_pos
      have hd := d.utf8Size_pos
      simp only [List.cons_append, Text.utf8Length]
      omega
    rw [if_neg hbytes]
    simp only [List.cons_append, List.nil_append, hdigits]

theorem IsCode.drop {digits : Text} {n : Nat} (h : IsCode digits n) (rest : Text) :
    (digits ++ rest).drop 4 = rest :=
  List.drop_left' h.1

theorem IsCode.fourDigits_eq {digits : Text} {n : Nat} (h : IsCode digits n) (rest : Text) :
    fourDigits (digits ++ rest) = .ok n := fourDigits_eq_ok_iff.mpr ⟨digits, rest, rfl, h⟩

theorem lowSurrogate_eq_ok_iff {high : Nat} {t : Text} {d : Char} :
    lowSurrogate high t = .ok d ↔ ∃ (low rest : Text)
    (n : Nat), t = '\\' :: 'u' :: (low ++ rest) ∧ IsCode low n ∧
      (0xDC00 ≤ n ∧ n ≤ 0xDFFF) ∧
        d = Char.ofNat ((high - 0xD800) * 0x400 + (n - 0xDC00) + 0x10000) := by
  constructor
  · intro h
    unfold lowSurrogate at h
    split at h
    · cases h
    · cases h
    · obtain ⟨n, hlow, h⟩ := bind_eq_ok_iff.mp h
      obtain ⟨low, rest, rfl, hcode⟩ := fourDigits_eq_ok_iff.mp hlow
      split at h
      · rename_i hrange
        exact ⟨low, rest, n, rfl, hcode, hrange, (Except.ok.inj h).symm⟩
      · cases h
    · cases h
    · cases h
  · rintro ⟨low, rest, n, rfl, hcode, hrange, hd⟩
    rw [lowSurrogate, hcode.fourDigits_eq, ok_bind, if_pos hrange, hd]
    rfl

theorem escape_eq_ok {t : Text} {d : Char} {n : Nat} (h : escape t = .ok (d, n)) :
    ∃ taken rest : Text, t = taken ++ rest ∧ taken.length = n ∧ WritesChar ('\\' :: taken) d := by
  unfold escape at h
  split at h
  · cases h
  · obtain ⟨code, hcode, h⟩ := bind_eq_ok_iff.mp h
    obtain ⟨digits, rest, rfl, hdigits⟩ := fourDigits_eq_ok_iff.mp hcode
    rw [hdigits.drop] at h
    split at h
    · cases h
    rename_i hlow
    split at h
    · rename_i hhigh
      obtain ⟨e, hpair, h⟩ := bind_eq_ok_iff.mp h
      cases h
      obtain ⟨low, rest, k, rfl, hk, hrange, hd⟩ := lowSurrogate_eq_ok_iff.mp hpair
      rw [hd]
      refine ⟨'u' :: (digits ++ '\\' :: 'u' :: low), rest, by simp, ?_,
        .pair digits low _ k hdigits hk hhigh hrange⟩
      simp [hdigits.1, hk.1]
    · rename_i hhigh
      cases h
      exact ⟨'u' :: digits, rest, rfl, by simp [hdigits.1], .code digits _ hdigits (by omega)⟩
  · rename_i c rest hu
    split at h
    · rename_i e hletter
      cases h
      exact ⟨[c], rest, rfl, rfl, .letter c d hletter⟩
    · cases h

/-! ## Strings -/

theorem stringBody_skipped (taken t : Text) :
    stringBody taken.length (taken ++ t) = stringBody 0 t := by
  induction taken with
  | nil => rfl
  | cons c taken ih => rw [List.cons_append, List.length_cons, stringBody, ih]

theorem stringBody_writesChar {written : Text} {c : Char} (h : WritesChar written c) (r : Text) :
    stringBody 0 (written ++ r) = (stringBody 0 r).map fun p => (c :: p.1, p.2) := by
  cases h with
  | itself c printable quote escape =>
    rw [List.singleton_append, stringBody, if_neg quote, if_neg escape,
      if_neg (Char.not_lt.mpr printable)]
    cases stringBody 0 r <;> rfl
  | letter l c h =>
    have hu : l ≠ 'u' := by
      rintro rfl
      cases h
    exact stringBody_escape _ r _ _ (escape_letter l c r h hu) rfl
  | code digits n h single =>
    have hskip : stringBody 5 ('u' :: digits ++ r) = stringBody 0 r := by
      have hlength : ('u' :: digits).length = 5 := by simp [h.1]
      rw [← hlength, stringBody_skipped]
    refine stringBody_escape ('u' :: digits ++ r) r _ _ ?_ hskip
    rw [List.cons_append, escape, h.fourDigits_eq, ok_bind, if_neg (by omega), if_neg (by omega)]
    rfl
  | pair high low m n hm hn first second =>
    have hskip : stringBody 11 ('u' :: (high ++ '\\' :: 'u' :: low) ++ r) = stringBody 0 r := by
      have hlength : ('u' :: (high ++ '\\' :: 'u' :: low)).length = 11 := by simp [hm.1, hn.1]
      rw [← hlength, stringBody_skipped]
    refine stringBody_escape ('u' :: (high ++ '\\' :: 'u' :: low) ++ r) r _ _ ?_ hskip
    have hlow : lowSurrogate m ('\\' :: 'u' :: (low ++ r)) =
        .ok (Char.ofNat ((m - 0xD800) * 0x400 + (n - 0xDC00) + 0x10000)) :=
      lowSurrogate_eq_ok_iff.mpr ⟨low, r, n, rfl, hn, second, rfl⟩
    rw [List.cons_append, List.append_assoc, escape, hm.fourDigits_eq, ok_bind, if_neg (by omega),
      if_pos first, hm.drop, List.cons_append, List.cons_append, hlow, ok_bind]
    rfl

theorem stringBody_writes {body s : Text} (h : Writes body s) (rest : Text) :
    stringBody 0 (body ++ '"' :: rest) = .ok (s, rest) := by
  induction h with
  | nil => rfl
  | cons first _ ih => rw [List.append_assoc, stringBody_writesChar first, ih, map_ok]

/-- A string is read off a text just if the text begins with what writes it and a quote. -/
theorem stringBody_eq_ok_iff {t s rest : Text} :
    stringBody 0 t = .ok (s, rest) ↔ ∃ body, t = body ++ '"' :: rest ∧ Writes body s := by
  constructor
  · intro h
    induction hlength : t.length using Nat.strongRecOn generalizing t s with
    | ind n ih =>
      cases t with
      | nil => cases h
      | cons c t =>
        rw [stringBody] at h
        split at h
        · rename_i hquote
          cases h
          exact ⟨[], by rw [hquote, List.nil_append], .nil⟩
        rename_i hquote
        split at h
        · rename_i hback
          obtain ⟨⟨d, k⟩, hescape, h⟩ := bind_eq_ok_iff.mp h
          obtain ⟨⟨u, rest'⟩, hbody, h⟩ := bind_eq_ok_iff.mp h
          cases h
          obtain ⟨taken, behind, rfl, rfl, htaken⟩ := escape_eq_ok hescape
          rw [stringBody_skipped] at hbody
          obtain ⟨body, rfl, hwrites⟩ := ih behind.length (by simp at hlength; omega) hbody rfl
          exact ⟨'\\' :: taken ++ body, by simp [hback], .cons htaken hwrites⟩
        rename_i hback
        split at h
        · cases h
        · rename_i hcontrol
          obtain ⟨⟨u, rest'⟩, hbody, h⟩ := bind_eq_ok_iff.mp h
          cases h
          obtain ⟨body, rfl, hwrites⟩ := ih t.length (by simp at hlength; omega) hbody rfl
          exact ⟨[c] ++ body, rfl, .cons (.itself c (Char.not_lt.mp hcontrol) hquote hback) hwrites⟩
  · rintro ⟨body, rfl, hwrites⟩
    exact stringBody_writes hwrites rest

theorem atEnd_eq_ok_iff {t : Text} : atEnd t = .ok () ↔ ∀ c ∈ t, isSpace c = true := by
  rw [atEnd, ← List.dropWhile_eq_nil_iff]
  change _ ↔ skipSpace t = []
  split
  · rename_i h
    simp [h]
  · rename_i hne
    simp only [faultInto, reduceCtorEq, false_iff]
    exact hne

theorem readString?_eq_some_iff {r s : Text} :
    readString? ('"' :: r) = some s ↔
      ∃ body blanks, r = body ++ '"' :: blanks ∧ Writes body s ∧
        ∀ c ∈ blanks, isSpace c = true := by
  rw [readString?, skipSpace_cons _ rfl]
  simp only [toOption_eq_some_iff, whole, bind_eq_ok_iff, Prod.exists]
  constructor
  · rintro ⟨v, rest, hbody, _, hend, h⟩
    cases h
    obtain ⟨body, rfl, hwrites⟩ := stringBody_eq_ok_iff.mp hbody
    exact ⟨body, rest, rfl, hwrites, atEnd_eq_ok_iff.mp hend⟩
  · rintro ⟨body, blanks, rfl, hwrites, hblank⟩
    exact ⟨s, blanks, stringBody_writes hwrites blanks, (), atEnd_eq_ok_iff.mpr hblank, rfl⟩

end Scenarist.Json

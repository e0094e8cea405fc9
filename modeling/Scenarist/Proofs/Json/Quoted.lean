import Scenarist.Json.Writer
import Scenarist.Json.Reader
import Scenarist.Proofs.Outcome

/-! # Quoted strings read back

The string reader gives the text that was quoted and stops behind its closing quote.
-/

namespace Scenarist.Json

/-! ## One character -/

theorem stringBody_escape (t rest : Text) (c : Char) (n : Nat) (h : escape t = .ok (c, n))
    (hskip : stringBody n t = stringBody 0 rest) :
    stringBody 0 ('\\' :: t) = (stringBody 0 rest).map fun p => (c :: p.1, p.2) := by
  rw [stringBody, if_neg (by decide), if_pos rfl, h, ok_bind]
  dsimp only
  rw [hskip]
  cases stringBody 0 rest <;> rfl

theorem escape_letter (l c : Char) (r : Text) (h : letterEscape? l = some c) (hu : l ≠ 'u') :
    escape (l :: r) = .ok (c, 1) := by
  unfold escape
  split <;> simp_all

theorem fourDigits_control (c : Char) (r : Text) (h : c.toNat < 32) :
    fourDigits ('0' :: '0' :: Nat.digitChar (c.toNat / 16) :: Nat.digitChar (c.toNat % 16) :: r) =
      .ok c.toNat := by
  have all : ∀ n < 32, Text.toNat? 16 ['0', '0', Nat.digitChar (n / 16), Nat.digitChar (n % 16)] =
      some n := by decide
  unfold fourDigits
  rw [if_neg]
  · simp [all _ h]
  · have h1 := Char.utf8Size_pos '0'
    have h2 := Char.utf8Size_pos (Nat.digitChar (c.toNat / 16))
    have h3 := Char.utf8Size_pos (Nat.digitChar (c.toNat % 16))
    simp only [Text.utf8Length]
    omega

theorem escape_control (c : Char) (r : Text) (h : c.toNat < 32) :
    escape ('u' :: '0' :: '0' :: Nat.digitChar (c.toNat / 16) :: Nat.digitChar (c.toNat % 16) ::
      r) =
      .ok (c, 5) := by
  rw [escape, fourDigits_control c r h, ok_bind, if_neg (by omega), if_neg (by omega),
    Char.ofNat_toNat]
  rfl

theorem stringBody_escapeChar (c : Char) (r : Text) :
    stringBody 0 (escapeChar c ++ r) = (stringBody 0 r).map fun p => (c :: p.1, p.2) := by
  unfold escapeChar
  split
  · subst c; exact stringBody_escape _ r _ _ (escape_letter '"' '"' r rfl (by decide)) rfl
  split
  · subst c; exact stringBody_escape _ r _ _ (escape_letter '\\' '\\' r rfl (by decide)) rfl
  split
  · subst c; exact stringBody_escape _ r _ _ (escape_letter 'b' '\x08' r rfl (by decide)) rfl
  split
  · subst c; exact stringBody_escape _ r _ _ (escape_letter 'f' '\x0c' r rfl (by decide)) rfl
  split
  · subst c; exact stringBody_escape _ r _ _ (escape_letter 'n' '\n' r rfl (by decide)) rfl
  split
  · subst c; exact stringBody_escape _ r _ _ (escape_letter 'r' '\r' r rfl (by decide)) rfl
  split
  · subst c; exact stringBody_escape _ r _ _ (escape_letter 't' '\t' r rfl (by decide)) rfl
  split
  · rename_i h
    exact stringBody_escape _ r _ _ (escape_control c r h) rfl
  · rename_i hquote hback _ _ _ _ _ hctl
    rw [List.singleton_append, stringBody, if_neg hquote, if_neg hback, if_neg hctl]
    cases stringBody 0 r <;> rfl

/-! ## Strings -/

theorem stringBody_escaped (t rest : Text) :
    stringBody 0 (t.flatMap escapeChar ++ '"' :: rest) = .ok (t, rest) := by
  induction t with
  | nil => rfl
  | cons c t ih => rw [List.flatMap_cons, List.append_assoc, stringBody_escapeChar, ih]; rfl

theorem quote_eq (t : Text) : quote t = '"' :: (t.flatMap escapeChar ++ ['"']) := rfl

theorem quote_append (t rest : Text) :
    quote t ++ rest = '"' :: (t.flatMap escapeChar ++ '"' :: rest) := by
  simp [quote_eq]

@[simp] theorem skipSpace_cons {c : Char} (t : Text) (h : isSpace c = false) :
    skipSpace (c :: t) = c :: t := by
  simp [skipSpace, h]

theorem readString?_quote (t : Text) : readString? (quote t) = some t := by
  rw [quote_eq, readString?, skipSpace_cons _ rfl]
  simp only [whole, stringBody_escaped]
  rfl

theorem value_quote (depth : Nat) (t rest : Text) :
    value depth (quote t ++ rest) = .ok (.string t, rest) := by
  rw [quote_append, value, skipSpace_cons _ rfl]
  simp only [stringBody_escaped]
  rfl

theorem readList_quote (t : Text) : readList ('[' :: quote t ++ [']']) = .ok [.string t] := by
  have hitems : ∀ n, items (value (depthLimit - 1)) (n + 2) true (quote t ++ [']']) =
      .ok ([.string t], []) := by
    intro n
    have hvalue := value_quote (depthLimit - 1) t [']']
    rw [quote_append] at hvalue ⊢
    rw [items, skipSpace_cons _ rfl]
    simp only [items.nextItem, if_true, ok_bind]
    change (value _ _ >>= _) = _
    rw [hvalue]
    rfl
  obtain ⟨n, hn⟩ : ∃ n, (quote t ++ [']']).length = n + 1 := ⟨(quote t).length, by simp⟩
  rw [readList, whole, List.cons_append, skipSpace_cons _ rfl]
  simp only [hn, hitems]
  rfl

end Scenarist.Json

import Scenarist.Proofs.Json.Literal
import Scenarist.Proofs.Selector.Conditions

/-! # Specifiers

Every matcher that a specifier can say has a spelling of its own: a pattern between slashes, a
string of a document with a letter behind it, or none of these. The forms are tried one after
another, and no spelling is taken for one of a form that is tried before.
-/

namespace Scenarist

/-- A string of a document in its quotes, with blanks behind it. -/
def Json.IsLiteral (r t : Text) : Prop :=
  ∃ body blanks, r = '"' :: (body ++ '"' :: blanks) ∧ Writes body t ∧ ∀ c ∈ blanks, isSpace c = true

namespace TextMatcher

theorem quoted?_eq_some_iff {r t : Text} : quoted? r = some t ↔ Json.IsLiteral r t := by
  unfold quoted? Json.IsLiteral
  split
  · rename_i hquote
    obtain ⟨r, rfl⟩ := List.head?_eq_some_iff.mp hquote
    simp only [Json.readString?_eq_some_iff, List.cons.injEq, true_and]
  · rename_i hquote
    refine ⟨nofun, ?_⟩
    rintro ⟨body, blanks, rfl, -⟩
    exact absurd rfl hquote

/-! ## Patterns -/

theorem ofSpecifier_regex (p : Text) {f : Text} (halpha : f.all Char.isAlpha = true)
    (hcompile : ∃ e, Pattern.compile p f = .ok e) :
      ofSpecifier ('/' :: (p ++ '/' :: f)) = .regex p f := by
  have hslash : '/' ∉ f := fun hmem => absurd (List.all_eq_true.mp halpha _ hmem) (by decide)
  have hliteral : regexLiteral? ('/' :: (p ++ '/' :: f)) = some (.regex p f) := by
    change (Text.splitLast? '/' (p ++ '/' :: f) >>= _) = _
    rw [Text.splitLast?_append p hslash]
    exact if_pos (Bool.and_eq_true_iff.mpr ⟨halpha, isOk_iff.mpr hcompile⟩)
  rw [ofSpecifier, hliteral, Option.some_or, Option.getD_some]

theorem regexLiteral?_ne_exact {raw v : Text} {b : Bool} :
    regexLiteral? raw ≠ some (.exact v b) := by
  intro h
  unfold regexLiteral? at h
  split at h
  · obtain ⟨⟨p, f⟩, -, h⟩ := Option.bind_eq_some_iff.mp h
    dsimp only at h
    split at h <;> cases h
  · cases h

/-! ## Quoted texts -/

theorem quotedWithCase?_eq_exact_iff {raw v : Text} {b : Bool} :
    quotedWithCase? raw = some (.exact v b) ↔
      b = true ∧ ∃ r, raw = r ++ ['s'] ∧ Json.IsLiteral r v := by
  constructor
  · intro h
    unfold quotedWithCase? at h
    split at h
    · rename_i r hdrop
      obtain ⟨w, hquoted, heq⟩ := Option.map_eq_some_iff.mp h
      cases heq
      exact ⟨rfl, r, Text.eq_append_of_dropEnd? hdrop, quoted?_eq_some_iff.mp hquoted⟩
    · obtain ⟨w, -, heq⟩ := Option.map_eq_some_iff.mp h
      cases heq
  · rintro ⟨rfl, r, rfl, hliteral⟩
    rw [quotedWithCase?, Text.dropEnd?_append]
    exact congrArg (Option.map (exact · true)) (quoted?_eq_some_iff.mpr hliteral)

theorem ofSpecifier_eq_exact_iff {raw v : Text} {b : Bool} :
    ofSpecifier raw = .exact v b ↔ b = true ∧ ∃ r, raw = r ++ ['s'] ∧ Json.IsLiteral r v := by
  -- neither the form that is tried before nor the one behind gives an exact text
  have hquoted : (quoted? raw).map plain ≠ some (.exact v b) := by
    cases quoted? raw <;> nofun
  rw [← quotedWithCase?_eq_exact_iff, ofSpecifier]
  simp only [Option.getD_eq_iff, Option.or_eq_some_iff, regexLiteral?_ne_exact, hquoted,
    reduceCtorEq, false_or, and_false, or_false, and_iff_right_iff_imp]
  intro h
  obtain ⟨-, r, rfl, body, blanks, rfl, -⟩ := quotedWithCase?_eq_exact_iff.mp h
  rfl

/-! ## Plain texts -/

theorem quotedWithCase?_unquoted {raw : Text} (h : raw.head? ≠ some '"') :
    quotedWithCase? raw = none := by
  have hunquoted {mark q : Text} (hdrop : Text.dropEnd? mark raw = some q) : quoted? q = none := by
    refine if_neg fun hquote => h ?_
    rw [Text.eq_append_of_dropEnd? hdrop, List.head?_append, hquote]
    rfl
  unfold quotedWithCase?
  split
  · rename_i q hdrop
    rw [hunquoted hdrop]
    rfl
  · cases hdrop : Text.dropEnd? ['i'] raw with
    | none => rfl
    | some q =>
      rw [Option.bind_some, hunquoted hdrop]
      rfl

theorem ofSpecifier_plain {raw : Text} (hslash : raw.head? ≠ some '/')
    (hquote : raw.head? ≠ some '"') :
    ofSpecifier raw = .plain raw := by
  have hregex : regexLiteral? raw = none := by
    unfold regexLiteral?
    split
    · exact absurd rfl hslash
    · rfl
  rw [ofSpecifier, hregex, quotedWithCase?_unquoted hquote, quoted?, if_neg hquote]
  rfl

/-! ## Spellings -/

/-- A specifier says the matcher that it spells. A text is exact just if it is a literal with the
letter for it, and a specifier that begins with no mark is plain. -/
theorem ofSpecifier_spellings :
    (∀ t, ofSpecifier (Json.quote t) = .plain t ∧
      ofSpecifier (Json.quote t ++ ['s']) = .exact t true ∧
        ofSpecifier (Json.quote t ++ ['i']) = exactIgnoreCase t) ∧
      (∀ p f, (∀ c ∈ f, c.isAlpha = true) → (∃ e, Pattern.compile p f = .ok e) →
        ofSpecifier ('/' :: (p ++ '/' :: f)) = .regex p f) ∧
      (∀ raw v b, ofSpecifier raw = .exact v b ↔
        b = true ∧ ∃ r, raw = r ++ ['s'] ∧ Json.IsLiteral r v) ∧
      ∀ raw, raw.head? ≠ some '/' → raw.head? ≠ some '"' → ofSpecifier raw = .plain raw := by
  refine ⟨fun t => ⟨?_, ?_, ?_⟩, ?_, fun raw v b => ofSpecifier_eq_exact_iff, fun raw =>
    ofSpecifier_plain⟩
  · have h := Wording.ofSpecifier_written ⟨t, .plain⟩
    rwa [Wording.written, CaseMark.letters, List.append_nil] at h
  · exact Wording.ofSpecifier_written ⟨t, .exact⟩
  · exact Wording.ofSpecifier_written ⟨t, .ignoringCase⟩
  · intro p f halpha hcompile
    exact ofSpecifier_regex p (List.all_eq_true.mpr halpha) hcompile

/-- A pattern with a slash, an escaped letter between quotes with a blank behind them, and a plain
word. -/
theorem ofSpecifier_spellings_forms :
    ofSpecifier "/a/b/i" = .regex "a/b" "i" ∧ ofSpecifier "\"\\u0041\" s" = .exact "A" true ∧
      ofSpecifier "Buy" = .plain "Buy" := by
  obtain ⟨-, hregex, hexact, hplain⟩ := ofSpecifier_spellings
  refine ⟨hregex "a/b" "i" (List.all_eq_true.mp (by decide)) (isOk_iff.mp (by decide +kernel)), ?_,
    hplain "Buy" (by decide) (by decide)⟩
  refine (hexact _ _ _).mpr
    ⟨rfl, "\"\\u0041\" ", rfl, "\\u0041", " ", rfl, ?_, List.all_eq_true.mp (by decide)⟩
  have hletter : Json.WritesChar "\\u0041" 'A' := .code "0041" 0x41 ⟨rfl, by decide⟩ (by decide)
  exact .cons hletter .nil

end TextMatcher

end Scenarist

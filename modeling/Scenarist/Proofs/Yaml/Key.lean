import Scenarist.Proofs.Yaml.Piece

/-! # Keys in block layout

A key is known by the colon behind it, which must stand on the same line and not too far away.
-/

namespace Scenarist.Yaml

/-- How a key is written. -/
def keyStyle (key : Text) : Style := if isPlainKey key then .plain else .quoted

/-- A key must stand on one line and not be too long. -/
def isKeyLegible (key : Text) : Bool :=
  decide ((keyText (.string key)).length ≤ 1024) && key.all fun c => !isRawBreak c

namespace Layout

variable {tokens : List Token} {columns : List Nat} {allowed : Bool}

/-- An entry at column `k` either belongs to the block there or opens one. -/
inductive Opening (k : Nat) (mark : Token) (tokens : List Token) :
    List Nat → List Token → List Nat → Prop where
  | stays (columns : List Nat) : Opening k mark tokens (k :: columns) tokens columns
  | opens {columns : List Nat} (h : ∀ c ∈ columns.head?, c < k) :
    Opening k mark tokens columns (mark :: tokens) columns

theorem Opening.inside {k : Nat} {mark : Token} {tokens tokens' : List Token}
    {columns columns' : List Nat}
    (h : Opening k mark tokens columns tokens' columns') : ∀ c ∈ columns.head?, c ≤ k := by
  cases h with
  | stays => simp
  | opens h => exact fun c hc => Nat.le_of_lt (h c hc)

theorem Opening.opensAt_cases {k : Nat} {mark : Token} {tokens tokens' : List Token}
    {columns columns' : List Nat} (h : Opening k mark tokens columns tokens' columns') :
    (tokens' = tokens ∧ columns = k :: columns' ∧ ∀ tokens allowed candidate,
      opensAt k ⟨tokens, columns, allowed, candidate, []⟩ = false) ∨
    (tokens' = mark :: tokens ∧ columns = columns' ∧ ∀ tokens allowed candidate,
      opensAt k ⟨tokens, columns, allowed, candidate, []⟩ = true) := by
  cases h with
  | stays => exact .inl ⟨rfl, rfl, fun _ _ _ => by simp [opensAt, inFlow, indent]⟩
  | opens h =>
    refine .inr ⟨rfl, rfl, fun tokens allowed candidate => ?_⟩
    have hlt : indent ⟨tokens, columns, allowed, candidate, []⟩ < k := indent_lt h
    simp [opensAt, inFlow, hlt]

theorem Opening.openAt {k : Nat} {mark : Token} {tokens tokens' : List Token}
    {columns columns' : List Nat}
    (h : Opening k mark tokens columns tokens' columns') (allowed : Bool)
    (candidate : Option Candidate) :
    Layout.openAt k mark ⟨tokens, columns, allowed, candidate, []⟩ =
      ⟨tokens', k :: columns', allowed, candidate, []⟩ := by
  rcases h.opensAt_cases with ⟨rfl, rfl, hopens⟩ | ⟨rfl, rfl, hopens⟩ <;>
    simp [Layout.openAt, hopens]

/-! ## The colon -/

theorem tokens?_colon (n : Nat) {k : Nat} {tokens' : List Token} {columns' : List Nat}
    (hopen : Opening k .blockMapping tokens columns tokens' columns') (scalar : Token)
    {c : Candidate}
    (hplace : c.place = tokens.length) (hcolumn : c.column = k) {q : Place}
    (hq : isStale (q.spot ':') c = false → k ≤ q.column) (t : Text)
    (hgap : ∀ p, isGap (charAt 0 (spots p t)) = true) :
    tokens? (n + 1) ⟨scalar :: tokens, columns, false, some c, []⟩ (spots q (':' :: t)) =
      if isStale (q.spot ':') c then none
      else tokens? n ⟨.value :: scalar :: .key :: tokens', k :: columns', false, none, []⟩
        (spots (q.next ':') t) := by
  rw [tokens?_token n _ q rfl]
  by_cases hstale : isStale (q.spot ':') c = true
  · rw [if_pos hstale]
    cases hrequired : c.required with
    | true => simp [dropStale?, hstale, hrequired]
    | false =>
      have hdrop : dropStale? (q.spot ':') ⟨scalar :: tokens, columns, false, some c, []⟩ =
          some ⟨scalar :: tokens, columns, false, none, []⟩ := by
        simp [dropStale?, hstale, hrequired]
      rw [hdrop, Option.bind_some, token?_colon _ _ _ (hgap _)]
      rfl
  · have hfresh : isStale (q.spot ':') c = false := by simpa using hstale
    have hdrop : dropStale? (q.spot ':') ⟨scalar :: tokens, columns, false, some c, []⟩ =
        some ⟨scalar :: tokens, columns, false, some c, []⟩ := by
      simp [dropStale?, hfresh]
    have hinside : ∀ d ∈ columns.head?, d ≤ q.column :=
      fun d hd => Nat.le_trans (hopen.inside d hd) (hq hfresh)
    have hmark : valueMark? q.column ⟨scalar :: tokens, columns, false, some c, []⟩ =
        some ⟨.value :: scalar :: .key :: tokens', k :: columns', false, none, []⟩ := by
      have hinsert :
          ∀ marks, insertAt tokens.length marks ⟨scalar :: tokens, columns, false, some c, []⟩ =
          scalar :: (marks.reverse ++ tokens) := by
        intro marks
        simp [insertAt]
      rw [valueMark?]
      simp only [hplace, hcolumn, hinsert]
      rcases hopen.opensAt_cases with ⟨rfl, rfl, hopens⟩ | ⟨rfl, rfl, hopens⟩ <;>
        simp [hopens]
    rw [if_neg hstale, hdrop, Option.bind_some, closeTo_inside hinside, token?_colon _ _ _ (hgap _),
      hmark]
    rfl

/-! ## The key -/

theorem plainKey_spec {key : Text} (h : isPlainKey key = true) :
    key.all isWordChar = true ∧ ∃ c r, key = c :: r ∧ isWordChar c = true ∧ c ≠ '-' ∧ c ≠ '.' := by
  cases key with
  | nil => exact absurd h (by decide)
  | cons c r =>
    rw [isPlainKey, Bool.and_eq_true] at h
    obtain ⟨hc, hr⟩ := h
    have hword : isWordChar c = true := by
      simp only [isWordChar, Char.isAlphanum, Bool.or_eq_true] at hc ⊢
      exact .inl (.inl (hc.imp_left .inl))
    refine ⟨?_, c, r, rfl, hword, ?_, ?_⟩
    · rw [List.all_cons, hword]
      exact hr
    · rintro rfl
      exact absurd hc (by decide)
    · rintro rfl
      exact absurd hc (by decide)

theorem endsLine_quote (t : Text) :
    (∀ c ∈ Json.quote t, endsLine c = false) ↔ ∀ c ∈ t, isRawBreak c = false := by
  have hchar : ∀ c, (∀ d ∈ Json.escapeChar c, endsLine d = false) ↔ isRawBreak c = false := by
    intro c
    rcases escapeChar_cases c with ⟨hc, -, -, hspace⟩ | ⟨e, hc, he, hless⟩
    · simp [hc, endsLine_eq_isRawBreak hspace]
    · rw [hc, not_isRawBreak_of_escapes hless]
      simp only [List.mem_cons, forall_eq_or_imp, iff_true]
      exact ⟨by decide, fun d hd => (he.inLine d hd).2⟩
  rw [quote_eq_escaped]
  simp only [List.mem_cons, List.mem_append, escaped, List.mem_flatMap, List.mem_nil_iff, or_false,
    forall_eq_or_imp]
  constructor
  · rintro ⟨-, h⟩ c hc
    exact (hchar c).mp fun d hd => h d (.inl ⟨c, hc, hd⟩)
  · intro h
    refine ⟨by decide, ?_⟩
    rintro d (⟨c, hc, hd⟩ | rfl)
    · exact (hchar c).mpr (h c hc) d hd
    · decide

theorem keyText_plain {key : Text} (h : isPlainKey key = true) : keyText (.string key) = key := by
  rw [keyText, if_pos h]

theorem keyText_quoted {key : Text} (h : isPlainKey key = false) :
    keyText (.string key) = Json.quote key := by
  rw [keyText, h, if_neg Bool.false_ne_true]

theorem endsLine_keyText (key : Text) :
    (∀ c ∈ keyText (.string key), endsLine c = false) ↔ ∀ c ∈ key, isRawBreak c = false := by
  cases hplain : isPlainKey key with
  | true =>
    have hall := List.all_eq_true.mp (plainKey_spec hplain).1
    rw [keyText_plain hplain]
    refine iff_of_true (fun c hc => endsLine_word (hall c hc)) fun c hc => ?_
    rw [Bool.eq_false_iff, ne_eq, isRawBreak_iff]
    rintro (rfl | rfl | rfl) <;> exact absurd (hall _ hc) (by decide)
  | false =>
    rw [keyText_quoted hplain]
    exact endsLine_quote key

theorem isStale_colon (key : Text) (p : Place) (required : Bool) (place : Nat) :
    isStale ((p.after (keyText (.string key))).spot ':')
      ⟨required, place, p.index, p.line, p.column⟩ =
      !isKeyLegible key := by
  have hindex := p.after_index (keyText (.string key))
  rw [Bool.eq_iff_iff]
  simp only [isStale, isKeyLegible, Place.spot, hindex, Bool.or_eq_true, decide_eq_true_eq,
    Bool.not_eq_true', Bool.and_eq_false_iff, decide_eq_false_iff_not]
  by_cases hline : ∀ c ∈ keyText (.string key), endsLine c = false
  · have hall : (key.all fun c => !isRawBreak c) = true := by
      simpa using (endsLine_keyText key).mp hline
    rw [(p.after_line hline).1, hall]
    simp
  · have hall : (key.all fun c => !isRawBreak c) = false := by
      rw [Bool.eq_false_iff]
      simpa using fun h => hline ((endsLine_keyText key).mpr h)
    obtain ⟨c, hc, hends⟩ : ∃ c ∈ keyText (.string key), endsLine c = true := by simpa using hline
    have := p.line_lt_after hc hends
    simp [hall, this]

theorem isLegibleBehind_inLine {t : Text} (h : ∀ c ∈ t, isRawBreak c = false) {before : Char}
    (hbefore : isSeparator before = false) : isLegibleBehind before t = true := by
  induction t generalizing before with
  | nil => rfl
  | cons c t ih =>
    have hc := h c (by simp)
    rw [isRawBreak_eq, Bool.or_eq_false_iff] at hc
    obtain ⟨hnext, hsep⟩ := hc
    rw [isLegibleBehind, hbefore, hsep, ih (fun d hd => h d (by simp [hd])) hsep, bne, hnext]
    simp

theorem not_isRawBreak_of_isKeyLegible {key : Text} (h : isKeyLegible key = true) :
    ∀ c ∈ key, isRawBreak c = false := by
  rw [isKeyLegible, Bool.and_eq_true] at h
  simpa using h.2

theorem endsLine_of_isKeyLegible {key : Text} (h : isKeyLegible key = true) :
    ∀ c ∈ keyText (.string key), endsLine c = false :=
  (endsLine_keyText key).mpr (not_isRawBreak_of_isKeyLegible h)

/-- What is remembered of a line that begins with a scalar. -/
def lineCandidate (p : Place) (tokens : List Token) (columns : List Nat) : Candidate :=
  ⟨indent (line tokens columns) == p.column, tokens.length, p.index, p.line, p.column⟩

theorem remember?_line (p : Place) (c : Char) :
    remember? (p.spot c) (line tokens columns) =
      some ⟨tokens, columns, true, some (lineCandidate p tokens columns), []⟩ := rfl

/-- What is read of the text of a key. -/
def readKey (key : Text) : Option Text := if isPlainKey key then some key else reread? key

theorem readKey_of_isKeyLegible {key : Text} (h : isKeyLegible key = true) :
    readKey key = some key := by
  have hinline : isLegible key = true :=
    isLegibleBehind_inLine (not_isRawBreak_of_isKeyLegible h) rfl
  rw [readKey, reread?_eq_self.mpr hinline, ite_self]

theorem tokens?_plainKey (n : Nat) {p : Place} (hp : ∀ k ∈ columns.head?, k ≤ p.column) {key : Text}
    (hplain : isPlainKey key = true) {t : Text} (hgap : ∀ p, isGap (charAt 0 (spots p t)) = true) :
    tokens? (n + 1) (line tokens columns) (spots p (key ++ ':' :: t)) =
      tokens? n ⟨.scalar .plain key :: tokens, columns, false,
        some (lineCandidate p tokens columns), []⟩
        (spots (p.after key) (':' :: t)) := by
  obtain ⟨hall, c, r, rfl, hc, hdash, hdot⟩ := plainKey_spec hplain
  have hstart := isTokenStart_word hc
  have hmark : isDocumentMark (p.spot c :: spots (p.next c) (r ++ ':' :: t)) = false := by
    rw [Bool.eq_false_iff, ne_eq, isDocumentMark_cons]
    simp [Place.spot, hdash, hdot]
  have htext := plainText_key (indent (line tokens columns) + 1).toNat p hall t hgap
  rw [List.cons_append, spots_token p hstart] at htext
  rw [List.cons_append, tokens?_token n _ p hstart, dropStale?_line, Option.bind_some, line,
    closeTo_inside hp, ← line, token?_word _ p hc _ rfl hmark fun h => absurd h hdash,
    remember?_line, Option.bind_some]
  change Option.bind
    (Option.map _ (plainText false (indent (line tokens columns) + 1).toNat _ _)) _ = _
  rw [htext]
  rfl

theorem tokens?_keyText (n : Nat) {p : Place} (hp : ∀ k ∈ columns.head?, k ≤ p.column) (key : Text)
    {t : Text} (hgap : ∀ p, isGap (charAt 0 (spots p t)) = true) :
    tokens? (n + 1) (line tokens columns) (spots p (keyText (.string key) ++ ':' :: t)) =
      (readKey key).bind fun u =>
        tokens? n ⟨.scalar (keyStyle key) u :: tokens, columns, false,
          some (lineCandidate p tokens columns), []⟩
          (spots (p.after (keyText (.string key))) (':' :: t)) := by
  cases hplain : isPlainKey key with
  | true =>
    rw [keyText_plain hplain, readKey, keyStyle, if_pos hplain, if_pos hplain]
    exact tokens?_plainKey n hp hplain hgap
  | false =>
    rw [keyText_quoted hplain, readKey, keyStyle, hplain, if_neg Bool.false_ne_true,
      if_neg Bool.false_ne_true]
    exact tokens?_quote n (dropStale?_line _) (closeTo_inside hp none) (remember?_line p _) key
      (':' :: t)

theorem tokens?_key (n : Nat) {k : Nat} {tokens' : List Token} {columns' : List Nat}
    (hopen : Opening k .blockMapping tokens columns tokens' columns') {p : Place}
    (hp : p.column = k) (key : Text)
    {t : Text} (hgap : ∀ p, isGap (charAt 0 (spots p t)) = true) :
    tokens? (n + 2) (line tokens columns) (spots p (keyText (.string key) ++ ':' :: t)) =
      if isKeyLegible key then
        tokens? n ⟨.value :: .scalar (keyStyle key) key :: .key :: tokens', k :: columns', false,
          none, []⟩
          (spots (p.after (keyText (.string key) ++ [':'])) t)
      else none := by
  have hstale :
      isStale ((p.after (keyText (.string key))).spot ':') (lineCandidate p tokens columns) =
      !isKeyLegible key := isStale_colon key p _ _
  have hcolumn :
      isStale ((p.after (keyText (.string key))).spot ':') (lineCandidate p tokens columns) =
    false →
      k ≤ (p.after (keyText (.string key))).column := by
    rw [hstale, Bool.not_eq_false']
    intro hlegible
    rw [(p.after_line (endsLine_of_isKeyLegible hlegible)).2, hp]
    exact Nat.le_add_right _ _
  have hcolon := fun scalar =>
    tokens?_colon n hopen scalar (c := lineCandidate p tokens columns) rfl hp hcolumn t hgap
  have hinside : ∀ c ∈ columns.head?, c ≤ p.column := by
    rw [hp]
    exact hopen.inside
  rw [tokens?_keyText (n + 1) hinside key hgap, Place.after_append]
  simp only [hcolon, hstale]
  cases hlegible : isKeyLegible key with
  | true =>
    rw [readKey_of_isKeyLegible hlegible]
    rfl
  | false => cases readKey key <;> rfl

end Layout

end Scenarist.Yaml

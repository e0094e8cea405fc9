import Scenarist.Proofs.Text.Digits
import Scenarist.Proofs.Yaml.Step
import Scenarist.Yaml.Block

/-! # Scalars and keys in block layout

The scanner reads a scalar of one line with the line break behind it, and a key with its colon.
-/

namespace Scenarist.Yaml.Layout

variable {tokens : List Token} {columns : List Nat} {allowed : Bool}

/-! ## One token -/

theorem token?_quote (l : Layout) (p : Place) (r : List Spot) :
    l.token? (p.spot '"') r = (l.remember? (p.spot '"')).bind fun l =>
      (quotedText false 0 .empty r).map fun u =>
        ({ l.add (.scalar .quoted u.1) with keyAllowed := false }, u.2) := by
  rw [token?, if_neg (by simp [Place.spot]), if_neg (by simp [Place.spot, isDocumentMark])]
  simp only [Option.map_eq_bind]
  rfl

theorem token?_bracket (l : Layout) (p : Place) (r : List Spot) :
    l.token? (p.spot '[') r = (l.openFlow? .openSequence (p.spot '[')).map (·, r) ∧
    l.token? (p.spot '\x7b') r = (l.openFlow? .openMapping (p.spot '\x7b')).map (·, r) ∧
    l.token? (p.spot ']') r = (l.closeFlow? .closeSequence).map (·, r) ∧
    l.token? (p.spot '\x7d') r = (l.closeFlow? .closeMapping).map (·, r) := by
  refine ⟨?_, ?_, ?_, ?_⟩ <;>
  · rw [token?, if_neg (by simp [Place.spot]), if_neg (by simp [Place.spot, isDocumentMark])]
    simp only [Option.map_eq_bind]
    rfl

theorem token?_colon (l : Layout) (p : Place) (r : List Spot) (h : isGap (charAt 0 r) = true) :
    l.token? (p.spot ':') r = (l.valueMark? p.column).map (·, r) := by
  rw [token?, if_neg (by simp [Place.spot]), if_neg (by simp [Place.spot, isDocumentMark])]
  simp only [h, Bool.or_true, Option.map_eq_bind]
  rfl

theorem token?_dash (l : Layout) (p : Place) (r : List Spot) (h : charAt 0 r = ' ') :
    l.token? (p.spot '-') r = ( l.openEntry? p.column .blockSequence .entry).map fun l =>
      ({ l with keyAllowed := true }, r) := by
  have hmark : isDocumentMark (p.spot '-' :: r) = false := by
    rw [Bool.eq_false_iff, ne_eq, isDocumentMark_cons, h]
    simp [Place.spot]
  rw [token?, if_neg (by simp [Place.spot]), hmark, if_neg Bool.false_ne_true]
  simp only [h, Option.map_eq_bind]
  rfl

/-- Names and numbers are made of these. -/
def isWordChar (c : Char) : Bool := c.isAlphanum || c == '_' || c == '-' || c == '.'

theorem ne_of_word {c d : Char} (h : isWordChar c = true) (hd : isWordChar d = false) : c ≠ d := by
  rintro rfl
  rw [h] at hd
  exact absurd hd (by decide)

theorem endsLine_word {c : Char} (h : isWordChar c = true) : endsLine c = false := by
  rw [Bool.eq_false_iff, ne_eq, endsLine_iff]
  rintro (rfl | rfl | rfl | rfl) <;> exact absurd h (by decide)

theorem isTokenStart_word {c : Char} (h : isWordChar c = true) : isTokenStart c = true := by
  have hspace := ne_of_word h (d := ' ') rfl
  have htab := ne_of_word h (d := '\t') rfl
  have hhash := ne_of_word h (d := '#') rfl
  have hnull := ne_of_word h (d := '\x00') rfl
  have hmark := ne_of_word h (d := '\ufeff') rfl
  have hreturn := ne_of_word h (d := '\r') rfl
  simp [isTokenStart, isBlank, endsLine_word h, hspace, htab, hhash, hnull, hmark, hreturn]

theorem isGap_word {c : Char} (h : isWordChar c = true) : isGap c = false := by
  obtain ⟨hblank, hline, -, hnull, -, -⟩ := isTokenStart_spec (isTokenStart_word h)
  simp [isGap, hblank, not_isBreak_of_not_endsLine hline, hnull]

theorem startsPlain_word {c next : Char} (h : isWordChar c = true)
    (hdash : c = '-' → isGap next = false) :
    startsPlain false c next = true := by
  unfold startsPlain
  by_cases hc : c = '-'
  · have := hdash hc
    rw [isGap, Bool.or_eq_false_iff, Bool.or_eq_false_iff] at this
    rw [if_pos hc, this.1.1]
    rfl
  · have hflow : isFlowIndicator c = false := by
      have hcomma := ne_of_word h (d := ',') rfl
      have hopen := ne_of_word h (d := '[') rfl
      have hclose := ne_of_word h (d := ']') rfl
      have hbrace := ne_of_word h (d := '\x7b') rfl
      have hbrace' := ne_of_word h (d := '\x7d') rfl
      simp [isFlowIndicator, hcomma, hopen, hclose, hbrace, hbrace']
    have hlist : c ∉ ['#', '&', '*', '!', '|', '>', '\'', '"', '%', '@', '`'] := by
      intro hmem
      have hall : (['#', '&', '*', '!', '|', '>', '\'', '"', '%', '@', '`'].all fun d =>
        !isWordChar d) = true := by
        decide
      have hno := List.all_eq_true.mp hall c hmem
      rw [h] at hno
      exact absurd hno (by decide)
    have hquestion := ne_of_word h (d := '?') rfl
    have hcolon := ne_of_word h (d := ':') rfl
    rw [if_neg hc, if_neg (by simp [hquestion, hcolon]), isGap_word h, hflow]
    simpa using hlist

theorem token?_word (l : Layout) (p : Place) {c : Char} (h : isWordChar c = true) (r : List Spot)
    (hflow : l.inFlow = false) (hmark : isDocumentMark (p.spot c :: r) = false)
    (hdash : c = '-' → isGap (charAt 0 r) = false) :
    l.token? (p.spot c) r = (l.remember? (p.spot c)).bind fun l =>
      (plainText l.inFlow (l.indent + 1).toNat .empty (p.spot c :: r)).map fun u =>
        ({ l.add (.scalar .plain u.1) with keyAllowed := u.2.1 }, u.2.2) := by
  have hne : ∀ d, isWordChar d = false → (p.spot c).char ≠ d := fun d hd => ne_of_word h hd
  have hplain := startsPlain_word h hdash
  rw [token?, hmark, if_neg fun hc => hne '%' rfl hc.2, if_neg Bool.false_ne_true,
    if_neg (hne '[' rfl),
    if_neg (hne '\x7b' rfl), if_neg (hne ']' rfl), if_neg (hne '\x7d' rfl), if_neg (hne ',' rfl),
    if_neg, if_neg fun hc => hne '?' rfl hc.1, if_neg fun hc => hne ':' rfl hc.1,
    if_neg fun hc => hc.elim (hne '*' rfl) (hne '&' rfl), if_neg (hne '!' rfl),
    if_neg fun hc => hc.1.elim (hne '|' rfl) (hne '>' rfl),
    if_neg fun hc => hc.elim (hne '\'' rfl) (hne '"' rfl), hflow, if_pos (by exact hplain)]
  · simp only [Option.map_eq_bind]
    rfl
  · rintro ⟨hc, hgap⟩
    rw [hdash hc] at hgap
    exact absurd hgap (by decide)

/-! ## Words -/

theorem plainText_word (indent : Nat) (p : Place) {w : Text} (h : w.all isWordChar = true)
    (t : Text) :
    plainText false indent .empty (spots p (w ++ t)) =
      (plainText false indent .empty (spots (p.after w) t)).map fun u => (w ++ u.1, u.2) := by
  induction w generalizing p with
  | nil => simp
  | cons c w ih =>
    obtain ⟨hc, hw⟩ : isWordChar c = true ∧ w.all isWordChar = true := by simpa using h
    obtain ⟨hblank, hline, -, hnull, -, -⟩ := isTokenStart_spec (isTokenStart_word hc)
    have hbreak := not_isBreak_of_not_endsLine hline
    have hcolon := ne_of_word hc (d := ':') rfl
    rw [List.cons_append, spots_token p (isTokenStart_word hc), plainText]
    simp only [Place.spot, hblank, hbreak, hnull, Gap.isEmpty, Gap.folded, beq_false_of_ne hcolon,
      Bool.false_eq_true, if_false, Bool.not_true, Bool.false_and, Bool.or_self, ih (p.next c) hw]
    rw [Place.after_cons]
    cases plainText false indent .empty (spots ((p.next c).after w) t) <;> rfl

theorem plainText_key (indent : Nat) (p : Place) {w : Text} (h : w.all isWordChar = true) (t : Text)
    (hgap : ∀ p, isGap (charAt 0 (spots p t)) = true) :
    plainText false indent .empty (spots p (w ++ ':' :: t)) =
      some (w, false, spots (p.after w) (':' :: t)) := by
  rw [plainText_word indent p h, spots_cons _ (by decide), plainText]
  simp [shown, isBlank, isBreak, Gap.isEmpty, hgap, Gap.hasBreak]

theorem plainText_stop {indent : Nat} {gap : Gap} {s : Spot} (hblank : isBlank s.char = false)
    (hbreak : isBreak s.char = false) (hnull : s.char ≠ '\x00') (hgap : gap.isEmpty = false)
    (hcolumn : s.column < indent) (r : List Spot) :
    plainText false indent gap (s :: r) = some ([], gap.hasBreak, s :: r) := by
  rw [plainText, hblank, if_neg Bool.false_ne_true, hbreak, if_neg Bool.false_ne_true, if_neg hnull,
    if_pos (by simp [hgap, hcolumn])]

theorem plainText_gap (indent : Nat) (first : Option Char) (more : Text) {p : Place}
    (hp : p.column = 0) {t : Text}
    (h : Follows indent t) :
    ∃ rest, plainText false indent (.breaks first more) (spots p t) = some ([], true, rest) ∧
      ∀ n l, tokens? n l rest = tokens? n l (spots p t) := by
  cases h with
  | stop => exact ⟨spots p [], by rw [spots_nil, plainText]; rfl, fun n l => rfl⟩
  | @line j c t hj hc =>
    refine ⟨spots (p.after (pad j)) (c :: t), ?_, fun n l => (tokens?_pad n l p j _).symm⟩
    have hskip : ∀ (j : Nat) (p : Place),
        plainText false indent (.breaks first more) (spots p (pad j ++ c :: t)) =
          plainText false indent (.breaks first more) (spots (p.after (pad j)) (c :: t)) := by
      intro j
      induction j with
      | zero => exact fun p => rfl
      | succ j ih =>
        intro p
        rw [pad_succ, List.cons_append, spots_cons p (by decide), plainText]
        exact ih (p.next ' ')
    obtain ⟨hblank, hline, -, hnull, -, -⟩ := isTokenStart_spec hc
    have hbreak := not_isBreak_of_not_endsLine hline
    have hcolumn := Place.after_blanks hp j
    rw [hskip, spots_token _ hc]
    exact plainText_stop hblank hbreak hnull rfl (by rw [Place.spot, hcolumn]; exact hj) _

theorem plainText_line (indent : Nat) (p : Place) {w : Text} (h : w.all isWordChar = true)
    {t : Text}
    (hfollows : Follows indent t) :
    ∃ rest, plainText false indent .empty (spots p (w ++ '\n' :: t)) = some (w, true, rest) ∧
      ∀ n l, tokens? n l rest = tokens? n l (spots (p.after (w ++ ['\n'])) t) := by
  obtain ⟨rest, hrest, htokens⟩ := plainText_gap indent (some '\n') [] (p.after_feed w) hfollows
  refine ⟨rest, ?_, htokens⟩
  have hfeed : p.after (w ++ ['\n']) = (p.after w).next '\n' := by
    rw [Place.after_append]
    rfl
  rw [plainText_word indent p h, spots_cons _ (by decide), plainText, ← hfeed]
  change Option.map _ (plainText false indent (.breaks (some '\n') []) _) = _
  rw [hrest, Option.map_some, List.append_nil]

/-! ## Scalars of one line -/

/-- The candidate is not required, and it is of this line or an earlier one. -/
def Idle (candidate : Option Candidate) (number : Nat) : Prop :=
  ∀ c ∈ candidate, c.required = false ∧ c.line ≤ number

theorem tokens?_idle (n : Nat) {candidate : Option Candidate} {p : Place} {number : Nat}
    (h : Idle candidate number) (hline : number < p.line) (t : Text) :
    tokens? n ⟨tokens, columns, true, candidate, []⟩ (spots p t) =
      tokens? n (line tokens columns) (spots p t) := by
  cases candidate with
  | none => rfl
  | some c =>
    obtain ⟨hrequired, hle⟩ := h c rfl
    exact tokens?_forget n hrequired (Nat.lt_of_le_of_lt hle hline) t

theorem tokens?_feed (n : Nat) {candidate : Option Candidate} {p : Place}
    (h : Idle candidate p.line)
    (t : Text) :
    tokens? n ⟨tokens, columns, allowed, candidate, []⟩ (spots p ('\n' :: t)) =
      tokens? n (line tokens columns) (spots (p.next '\n') t) := by
  rw [spots_cons p (by decide), tokens?_break n candidate rfl]
  exact tokens?_idle n h (Nat.lt_succ_self _) t

theorem remember?_right (tokens : List Token) (allowed : Bool) {p : Place}
    (h : ∀ k ∈ columns.head?, k < p.column)
    (c : Char) :
    ∃ candidate, Idle candidate p.line ∧
      remember? (p.spot c) ⟨tokens, columns, allowed, none, []⟩ =
        some ⟨tokens, columns, allowed, candidate, []⟩ := by
  cases allowed with
  | false => exact ⟨none, by simp [Idle], rfl⟩
  | true =>
    refine ⟨some ⟨false, tokens.length, p.index, p.line, p.column⟩, by simp [Idle], ?_⟩
    have hlt : indent ⟨tokens, columns, true, none, []⟩ < p.column := indent_lt h
    have hne : (indent ⟨tokens, columns, true, none, []⟩ == (p.column : Int)) = false :=
      beq_false_of_ne (Int.ne_of_lt hlt)
    rw [remember?, if_pos rfl]
    simp [dropCandidate?, inFlow, Place.spot, hne]

theorem inside_of_lt {column : Nat} (h : ∀ k ∈ columns.head?, k < column) :
    ∀ k ∈ columns.head?, k ≤ column :=
  fun k hk => Nat.le_of_lt (h k hk)

theorem quote_eq_escaped (t : Text) : Json.quote t = '"' :: (escaped t ++ ['"']) := rfl

theorem tokens?_quote (n : Nat) {l kept : Layout} {p : Place}
    (hdrop : l.dropStale? (p.spot '"') = some l)
    (hclose : l.closeTo p.column = l) (hremember : l.remember? (p.spot '"') = some kept)
    (t more : Text) :
    tokens? (n + 1) l (spots p (Json.quote t ++ more)) =
      (reread? t).bind fun u => tokens? n { kept.add (.scalar .quoted u) with keyAllowed := false }
        (spots (p.after (Json.quote t)) more) := by
  have hcolumn : ((p.next '"').column == 0) = false := p.column_next '"'
  have htext : Json.quote t ++ more = '"' :: (escaped t ++ '"' :: more) := by
    simp [quote_eq_escaped]
  rw [htext, tokens?_token n l p rfl, hdrop, Option.bind_some, hclose, token?_quote, hremember,
    Option.bind_some, quotedText_escaped, hcolumn]
  change Option.bind (Option.map _ (Option.map _ (reread? t))) _ = _
  cases reread? t <;> rfl

theorem tokens?_string (n : Nat) {p : Place} (hp : ∀ k ∈ columns.head?, k < p.column)
    (t more : Text) :
    tokens? (n + 1) ⟨tokens, columns, allowed, none, []⟩ (spots p (Json.quote t ++ '\n' :: more)) =
      (reread? t).bind fun u => tokens? n (line (.scalar .quoted u :: tokens) columns)
        (spots (p.after (Json.quote t ++ ['\n'])) more) := by
  obtain ⟨candidate, hidle, hremember⟩ := remember?_right tokens allowed hp '"'
  rw [tokens?_quote n (dropStale?_none _) (closeTo_inside (inside_of_lt hp) none) hremember]
  refine Option.bind_congr fun u _ => ?_
  have hlater : Idle candidate (p.after (Json.quote t)).line := fun c hc =>
    ⟨(hidle c hc).1, Nat.le_trans (hidle c hc).2 (p.line_le_after (Json.quote t))⟩
  rw [Place.after_append]
  exact tokens?_feed n hlater more

/-- A word does not look like the dash of an item. -/
def isWord (w : Text) : Bool := w.all isWordChar && w != [] && w != ['-']

theorem isWord_spec {w : Text} (h : isWord w = true) :
    w.all isWordChar = true ∧ ∃ c r, w = c :: r ∧ isWordChar c = true ∧
      (c = '-' → ∃ d r', r = d :: r' ∧ isWordChar d = true) := by
  rw [isWord, Bool.and_eq_true, Bool.and_eq_true] at h
  obtain ⟨⟨hall, hne⟩, hdash⟩ := h
  refine ⟨hall, ?_⟩
  match w with
  | [] => exact absurd hne (by decide)
  | [c] =>
    refine ⟨c, [], rfl, by simpa using hall, ?_⟩
    rintro rfl
    exact absurd hdash (by decide)
  | c :: d :: r =>
    obtain ⟨hc, hd, -⟩ : isWordChar c = true ∧ isWordChar d = true ∧ _ := by simpa using hall
    exact ⟨c, d :: r, rfl, hc, fun _ => ⟨d, r, rfl, hd⟩⟩

theorem charAt_token (p : Place) {c : Char} (h : isTokenStart c = true) (t : Text) :
    charAt 0 (spots p (c :: t)) = c := by
  rw [spots_token p h]
  rfl

/-- The word is not taken for the mark of a document, wherever it stands. -/
def isUnmarked : Text → Bool
  | c :: d :: _ => !((c == '-' || c == '.') && d == c)
  | _ => true

theorem isDocumentMark_word (p : Place) {c : Char} {r : Text} (hall : r.all isWordChar = true)
    (hmark : isUnmarked (c :: r) = true) (more : Text) :
    isDocumentMark (p.spot c :: spots (p.next c) (r ++ '\n' :: more)) = false := by
  rw [Bool.eq_false_iff, ne_eq, isDocumentMark_cons]
  rintro ⟨-, hc, hfirst, -⟩
  dsimp only [Place.spot] at hc hfirst
  cases r with
  | nil =>
    rw [List.nil_append, charAt_zero _ (by decide)] at hfirst
    rcases hc with rfl | rfl <;> exact absurd hfirst (by decide)
  | cons d r =>
    obtain ⟨hd, -⟩ : isWordChar d = true ∧ _ := by simpa using hall
    rw [List.cons_append, charAt_token _ (isTokenStart_word hd)] at hfirst
    simp only [isUnmarked, hfirst, beq_self_eq_true, Bool.and_true, Bool.not_eq_true',
      Bool.or_eq_false_iff, beq_eq_false_iff_ne] at hmark
    exact hc.elim hmark.1 hmark.2

/-- The lines from this column on would belong to a scalar. -/
def margin : List Nat → Nat
  | [] => 0
  | k :: _ => k + 1

theorem tokens?_word (n : Nat) {p : Place} (hp : ∀ k ∈ columns.head?, k < p.column) {w : Text}
    (hw : isWord w = true) (hunmarked : isUnmarked w = true) {more : Text}
    (hfollows : Follows (margin columns) more) :
    tokens? (n + 1) ⟨tokens, columns, allowed, none, []⟩ (spots p (w ++ '\n' :: more)) =
      tokens? n (line (.scalar .plain w :: tokens) columns)
        (spots (p.after (w ++ ['\n'])) more) := by
  obtain ⟨hall, c, r, rfl, hc, hdash⟩ := isWord_spec hw
  obtain ⟨candidate, hidle, hremember⟩ := remember?_right tokens allowed hp c
  obtain ⟨rest, hrest, htokens⟩ := plainText_line (margin columns) p hall hfollows
  have hstart := isTokenStart_word hc
  have hmark := isDocumentMark_word p (Bool.and_eq_true_iff.mp hall).2 hunmarked more
  have hnext : c = '-' → isGap (charAt 0 (spots (p.next c) (r ++ '\n' :: more))) = false := by
    intro h
    obtain ⟨d, r', rfl, hd⟩ := hdash h
    rw [List.cons_append, charAt_token _ (isTokenStart_word hd), isGap_word hd]
  have hindent : (indent ⟨tokens, columns, allowed, candidate, []⟩ + 1).toNat = margin columns := by
    cases columns <;> rfl
  rw [List.cons_append, tokens?_token n _ p hstart, dropStale?_none, Option.bind_some,
    closeTo_inside (inside_of_lt hp), token?_word _ p hc _ rfl hmark hnext, hremember,
    Option.bind_some, hindent]
  rw [List.cons_append, spots_token p hstart] at hrest
  have hflow : inFlow ⟨tokens, columns, allowed, candidate, []⟩ = false := rfl
  rw [hflow, hrest, Option.map_some, Option.bind_some, htokens]
  refine tokens?_idle n hidle ?_ more
  rw [List.cons_append, ← List.cons_append, Place.after_append]
  exact Nat.lt_succ_of_le (p.line_le_after (c :: r))

theorem dropStale?_idle (tokens : List Token) (columns : List Nat) (allowed : Bool) (s : Spot)
    {candidate : Option Candidate} {number : Nat} (h : Idle candidate number) :
    ∃ candidate', Idle candidate' number ∧
      dropStale? s ⟨tokens, columns, allowed, none, [candidate]⟩ =
        some ⟨tokens, columns, allowed, none, [candidate']⟩ := by
  refine ⟨candidate.filter fun c => !isStale s c, ?_, ?_⟩
  · intro c hc
    exact h c (Option.eq_some_of_filter_eq_some hc)
  · cases candidate with
    | none => rfl
    | some c => simp [dropStale?, (h c rfl).1]

theorem tokens?_brackets (n : Nat) {p : Place} (hp : ∀ k ∈ columns.head?, k < p.column) {o c : Char}
    {opening closing : Token} (ho : isTokenStart o = true) (hc : isTokenStart c = true)
    (hopen : ∀ (l : Layout) (p : Place) r,
      l.token? (p.spot o) r = (l.openFlow? opening (p.spot o)).map (·, r))
    (hclose : ∀ (l : Layout) (p : Place) r,
      l.token? (p.spot c) r = (l.closeFlow? closing).map (·, r)) (more : Text) :
    tokens? (n + 2) ⟨tokens, columns, allowed, none, []⟩ (spots p (o :: c :: '\n' :: more)) =
      tokens? n (line (closing :: opening :: tokens) columns)
        (spots (p.after [o, c, '\n']) more) := by
  obtain ⟨candidate, hidle, hremember⟩ := remember?_right tokens allowed hp o
  obtain ⟨candidate', hidle', hdrop⟩ := dropStale?_idle (opening :: tokens) columns true
    ((p.next o).spot c) hidle
  have hopened : openFlow? opening (p.spot o) ⟨tokens, columns, allowed, none, []⟩ =
      some ⟨opening :: tokens, columns, true, none, [candidate]⟩ := by
    rw [openFlow?, hremember]
    rfl
  rw [tokens?_token (n + 1) _ p ho, dropStale?_none, Option.bind_some,
    closeTo_inside (inside_of_lt hp), hopen, hopened, Option.map_some, Option.bind_some]
  dsimp only
  rw [tokens?_token n _ _ hc, hdrop, Option.bind_some, closeTo, if_pos (by rfl), hclose]
  change tokens? n ⟨closing :: opening :: tokens, columns, false, candidate', []⟩ _ = _
  refine tokens?_feed n ?_ more
  intro d hd
  have hle := Nat.le_trans (p.line_le_next o) ((p.next o).line_le_next c)
  exact ⟨(hidle' d hd).1, Nat.le_trans (hidle' d hd).2 hle⟩

end Scenarist.Yaml.Layout

import Scenarist.Proofs.Attribute.Origin
import Scenarist.Proofs.Selector.Specifier

/-! # Values as specifiers

A value of an attribute is read forwards, with classes and backslashes in mind. As a specifier of a
text the same characters are cut at the last slash, or decoded as a string of a document. For
patterns and for plainly quoted texts both say the same.
-/

namespace Scenarist

namespace Attribute

variable {allowText : Bool} {t rest : Text} {a : Attribute}

/-! ## Patterns -/

theorem flagLetter_facts {c : Char} (h : isFlagLetter c = true) :
    c.isAlpha = true ∧ Text.isBlank c = false ∧ c ≠ '/' := by
  simp only [isFlagLetter, decide_eq_true_eq, List.mem_cons, List.not_mem_nil, or_false] at h
  rcases h with rfl | rfl | rfl | rfl | rfl | rfl | rfl <;> decide

theorem isTrimmed_regexLiteral (p : Text) {f : Text} (h : ∀ c ∈ f, isFlagLetter c = true) :
    Text.IsTrimmed ('/' :: (p ++ '/' :: f)) := by
  refine ⟨⟨'/', _, rfl, rfl⟩, ?_⟩
  rcases List.eq_nil_or_concat f with rfl | ⟨g, c, rfl⟩
  · exact ⟨'/' :: p, '/', rfl, rfl⟩
  · refine ⟨'/' :: (p ++ '/' :: g), c, by simp, (flagLetter_facts (h c ?_)).2.1⟩
    simp

theorem raw_of_regex (h : readAttribute allowText t = .ok (a, rest)) {p f : Text}
    (hvalue : a.value = .regex p f) :
    a.raw = '/' :: (p ++ '/' :: f) ∧ readPattern false (p ++ '/' :: f) = .ok (p, f) ∧
      (∀ c ∈ f, isFlagLetter c = true) ∧ ∃ e, Pattern.compile p f = .ok e := by
  rcases readAttribute_cases h with ⟨-, hnone, -⟩ | ⟨u, after, hread, hraw⟩
  · rw [hnone] at hvalue
    cases hvalue
  rw [hvalue] at hread
  obtain ⟨r, hstart⟩ := exists_slash hread
  rw [hstart] at hread
  obtain ⟨p', f', heq, hr, hpattern, hflags, hcompile⟩ := readRegex_ok (readValue_slash hread)
  cases heq
  refine ⟨?_, hpattern, hflags, hcompile⟩
  have hsplit : skipBlanks u = ('/' :: (p ++ '/' :: f)) ++ after := by simp [hstart, hr]
  rw [hraw, hsplit, List.length_append, Nat.add_sub_cancel, List.take_left' rfl,
    Text.trim_trimmed _ (isTrimmed_regexLiteral p hflags)]

theorem readValue_raw (h : readAttribute allowText t = .ok (a, rest)) (hne : a.raw ≠ []) :
    ∃ behind after,
      readValue allowText a.op (a.raw ++ behind) = .ok (a.value, a.caseSensitive, after) ∧
      (skipBlanks behind).length ≤ after.length := by
  rcases readAttribute_cases h with ⟨-, -, hnil⟩ | ⟨u, after, hread, hraw⟩
  · exact absurd hnil hne
  · obtain ⟨behind, hstart, hlen⟩ := exists_behind u after
    rw [← hraw] at hstart
    rw [hstart] at hread
    exact ⟨behind, after, hread, hlen⟩

theorem exists_regex (h : readAttribute allowText t = .ok (a, rest))
    (hslash : a.raw.head? = some '/') :
    ∃ p f, a.value = .regex p f := by
  obtain ⟨r, hr⟩ := List.head?_eq_some_iff.mp hslash
  obtain ⟨behind, after, hread, -⟩ := readValue_raw h (by simp [hr])
  rw [hr] at hread
  obtain ⟨p, f, hvalue, -⟩ := readRegex_ok (readValue_slash hread)
  exact ⟨p, f, hvalue⟩

/-! ## Plainly quoted texts -/

/-- What stands between double quotes when no character is a control character and only quotes and
backslashes are escaped. -/
inductive IsPlain : Text → Prop where
  | nil : IsPlain []
  | char (c : Char) (r : Text) (printable : ' ' ≤ c) (quote : c ≠ '"') (escape : c ≠ '\\')
      (h : IsPlain r) :
    IsPlain (c :: r)
  | pair (c : Char) (r : Text) (escaped : c = '"' ∨ c = '\\') (h : IsPlain r) :
      IsPlain ('\\' :: c :: r)

/-- A plain text between double quotes with a letter for the case behind it. -/
def IsPlainlyQuoted (r : Text) : Prop :=
  ∃ s mark, IsPlain s ∧ r = '"' :: (s ++ '"' :: CaseMark.letters mark)

theorem IsPlain.exists_text {s : Text} (h : IsPlain s) :
    ∃ v : Text, s = v.flatMap escapeQuoted ∧ ∀ c ∈ v, ' ' ≤ c := by
  induction h with
  | nil => exact ⟨[], rfl, by simp⟩
  | char c r printable quote escape _ ih =>
    obtain ⟨v, rfl, hv⟩ := ih
    exact ⟨c :: v, by simp [escapeQuoted, quote, escape], List.forall_mem_cons.mpr ⟨printable, hv⟩⟩
  | pair c r escaped _ ih =>
    obtain ⟨v, rfl, hv⟩ := ih
    refine ⟨c :: v, by simp [escapeQuoted, escaped], List.forall_mem_cons.mpr ⟨?_, hv⟩⟩
    rcases escaped with rfl | rfl <;> decide

theorem escapeQuoted_printable {c : Char} (h : ' ' ≤ c) : escapeQuoted c = Json.escapeChar c := by
  have hne : ∀ d : Char, d < ' ' → c ≠ d := by
    rintro d hd rfl
    exact absurd h (Char.not_le.mpr hd)
  unfold escapeQuoted Json.escapeChar
  simp only [if_neg (hne '\x08' (by decide)), if_neg (hne '\x0c' (by decide)),
    if_neg (hne '\n' (by decide)),
    if_neg (hne '\r' (by decide)), if_neg (hne '\t' (by decide)), if_neg (Char.not_lt.mpr h)]
  by_cases hquote : c = '"'
  · simp [hquote]
  by_cases hescape : c = '\\'
  · simp [hescape]
  simp [hquote, hescape]

theorem quotedText_printable {v : Text} (h : ∀ c ∈ v, ' ' ≤ c) : quotedText v = Json.quote v := by
  have hescape : v.flatMap escapeQuoted = v.flatMap Json.escapeChar := by
    rw [List.flatMap_def, List.flatMap_def, List.map_congr_left fun c hc =>
      escapeQuoted_printable (h c hc)]
  rw [quotedText, hescape]
  rfl

theorem readCase_letters {mark : CaseMark} {behind after : Text} {caseSensitive : Bool}
    (h : readCase (mark.letters ++ behind) = (caseSensitive, after))
    (hlen : (skipBlanks behind).length ≤ after.length) : caseSensitive = mark.isSensitive := by
  cases mark with
  | exact | ignoringCase =>
    cases h
    rfl
  | plain =>
    change readCase behind = _ at h
    unfold readCase at h
    split at h <;> cases h
    -- a letter behind blanks would belong to the raw value
    case h_1 heq | h_2 heq =>
      rw [heq, List.length_cons] at hlen
      omega
    all_goals rfl

theorem value_of_quoted (h : readAttribute allowText t = .ok (a, rest)) {v : Text} {mark : CaseMark}
    (hraw : a.raw = quotedText v ++ mark.letters) :
      a.value = .text v ∧ a.caseSensitive = mark.isSensitive := by
  obtain ⟨behind, after, hread, hlen⟩ := readValue_raw h (by simp [hraw, quotedText])
  have hquoted := readValue_quoted allowText a.op .double v (mark.letters ++ behind)
  rw [hraw, List.append_assoc] at hread
  have hsame : Except.ok _ = Except.ok _ := hread.symm.trans hquoted
  obtain ⟨hvalue, hcase⟩ := Prod.mk.inj (Except.ok.inj hsame)
  exact ⟨hvalue, readCase_letters hcase.symm hlen⟩

end Attribute

/-! ## Specifiers -/

theorem Chain.attributeMatcher?_quoted {a : Attribute} {w : Wording}
    (hvalue : a.value = .text w.text)
    (hcase : a.caseSensitive = w.mark.isSensitive)
    (hraw : a.raw = Attribute.quotedText w.text ++ w.mark.letters) :
    attributeMatcher? a = some w.matcher := by
  rw [← attributeMatcher?_attribute a.name w, attributeMatcher?, attributeMatcher?, hvalue, hcase,
    hraw]
  rfl

/-- The pattern of an attribute is what stands between its first and its last slash, and a value
that is a pattern or plainly quoted says as a specifier what it says as a value. -/
theorem AttributeBody.value_as_specifier {allowText : Bool} {t : Text} {b : AttributeBody}
    (h : read allowText t = .ok b) {a : Attribute} (ha : a ∈ b.attributes) :
    (a.raw.head? = some '/' ∨ Attribute.IsPlainlyQuoted a.raw →
        Chain.attributeMatcher? a = some (.ofSpecifier a.raw)) ∧
      ∀ p f, a.value = .regex p f →
        a.raw = '/' :: (p ++ '/' :: f) ∧ Text.splitLast? '/' (p ++ '/' :: f) = some (p, f) ∧
          Attribute.readPattern false (p ++ '/' :: f) = .ok (p, f) := by
  obtain ⟨u, rest, hattribute⟩ := (exists_read h).2.2 a ha
  constructor
  · rintro (hslash | ⟨s, mark, hplain, hraw⟩)
    · obtain ⟨p, f, hvalue⟩ := Attribute.exists_regex hattribute hslash
      obtain ⟨hraw, -, hflags, hcompile⟩ := Attribute.raw_of_regex hattribute hvalue
      have halpha : f.all Char.isAlpha = true :=
        List.all_eq_true.mpr fun c hc => (Attribute.flagLetter_facts (hflags c hc)).1
      rw [hraw, TextMatcher.ofSpecifier_regex p halpha hcompile, Chain.attributeMatcher?, hvalue]
    · obtain ⟨v, rfl, hprintable⟩ := hplain.exists_text
      have hquoted : a.raw = Attribute.quotedText v ++ mark.letters := by
        simp [hraw, Attribute.quotedText]
      obtain ⟨hvalue, hcase⟩ := Attribute.value_of_quoted hattribute hquoted
      have hwritten : a.raw = Wording.written ⟨v, mark⟩ := by
        rw [hquoted, Attribute.quotedText_printable hprintable, Wording.written]
      rw [Chain.attributeMatcher?_quoted (w := ⟨v, mark⟩) hvalue hcase hquoted, hwritten,
        Wording.ofSpecifier_written]
  · intro p f hvalue
    obtain ⟨hraw, hpattern, hflags, -⟩ := Attribute.raw_of_regex hattribute hvalue
    exact ⟨hraw, Text.splitLast?_append p fun hmem =>
      (Attribute.flagLetter_facts (hflags _ hmem)).2.2 rfl, hpattern⟩

/-- A slash in a class, one behind a backslash and the last one, and a text with quotes and a
backslash. -/
theorem AttributeBody.value_as_specifier_slashes :
    let pattern : Text := "[/]\\/x"
    let flags : Text := "i"
    let a : Attribute := ⟨["name"], .equals, .regex pattern flags, true, "/[/]\\/x/i"⟩
    let b : Attribute := ⟨["name"], .equals, .text "\"C:\\\"", true, "\"\\\"C:\\\\\\\"\"s"⟩
    (read true ("[name=" ++ a.raw ++ "]") = .ok ⟨[], [a]⟩ ∧
      Chain.attributeMatcher? a = some (.ofSpecifier a.raw) ∧
        Text.splitLast? '/' (pattern ++ '/' :: flags) = some (pattern, flags) ∧
        Attribute.readPattern false (pattern ++ '/' :: flags) = .ok (pattern, flags)) ∧
      read true ("[name=" ++ b.raw ++ "]") = .ok ⟨[], [b]⟩ ∧ Attribute.IsPlainlyQuoted b.raw ∧
        Chain.attributeMatcher? b = some (.ofSpecifier b.raw) := by
  intro pattern flags a b
  have hread : read true ("[name=" ++ a.raw ++ "]") = .ok ⟨[], [a]⟩ :=
    toOption_eq_some_iff.mp (by decide +kernel)
  have hread' : read true ("[name=" ++ b.raw ++ "]") = .ok ⟨[], [b]⟩ := by rfl
  have hplain : Attribute.IsPlainlyQuoted b.raw := by
    have hend : Attribute.IsPlain "\\\\\\\"" := .pair _ _ (.inr rfl) (.pair _ _ (.inl rfl) .nil)
    have hletters : Attribute.IsPlain "C:\\\\\\\"" := by
      refine .char _ _ ?_ ?_ ?_ (.char _ _ ?_ ?_ ?_ hend) <;> decide
    exact ⟨"\\\"C:\\\\\\\"", .exact, .pair _ _ (.inl rfl) hletters, by rfl⟩
  obtain ⟨hmatcher, hslashes⟩ := value_as_specifier hread (List.mem_singleton_self a)
  obtain ⟨hmatcher', -⟩ := value_as_specifier hread' (List.mem_singleton_self b)
  exact ⟨⟨hread, hmatcher (.inl rfl), (hslashes _ _ rfl).2⟩, hread', hplain,
    hmatcher' (.inr hplain)⟩

end Scenarist

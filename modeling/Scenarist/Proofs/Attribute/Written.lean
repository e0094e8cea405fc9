import Scenarist.Proofs.Attribute.Body

/-! # Attributes read back

A body that was written with its texts between double quotes is read as what was written.
-/

namespace Scenarist.Attribute

/-! ## Writing -/

/-- Quotes and backslashes stand behind a backslash. -/
def escapeQuoted (c : Char) : Text := if c = '"' ∨ c = '\\' then ['\\', c] else [c]

def quotedText (t : Text) : Text := '"' :: (t.flatMap escapeQuoted ++ ['"'])

/-- The attribute with a quoted text. -/
def ofQuoted (name value : Text) (mark : CaseMark) : Attribute :=
  ⟨[name], .equals, .text value, mark.isSensitive, quotedText value ++ mark.letters⟩

/-- The attribute with a value without quotes. -/
def ofWord (name word : Text) : Attribute := ⟨[name], .equals, wordValue word, true, word⟩

/-- An attribute in its brackets. -/
def written (a : Attribute) : Text := '[' :: (a.name ++ '=' :: (a.raw ++ [']']))

/-! ## What is read back -/

/-- An attribute with a plain name and a value in one of the two forms. -/
inductive IsWritten : Attribute → Prop where
  | quoted (name value : Text) (mark : CaseMark) (h : IsName name) :
    IsWritten (ofQuoted name value mark)
  | word (name word : Text) (h : IsName name) (hw : IsWord word) : IsWritten (ofWord name word)

theorem IsWritten.isName {a : Attribute} (h : IsWritten a) : IsName a.name := by
  cases h with
  | quoted name value mark h => exact h
  | word name word h _ => exact h

/-! ## As phrases -/

/-- No spaces at all. -/
def Gaps.none : Gaps := ⟨fun _ => 0, 0, 0, 0, 0⟩

/-- A name that is compared with a value. -/
def Phrase.compared (name : Text) (h : IsName name) (s : Comparison) : Phrase :=
  ⟨[], .name name h, some s⟩

theorem Phrase.not_fused_compared {name : Text} {h : IsName name} {s : Comparison}
    (hop : s.op ≠ .endsWith) (g : Gaps) :
    ¬(compared name h s).IsFused g := by
  rintro ⟨-, -, s', hs', hend⟩
  obtain rfl := Option.some.inj hs'
  exact hop hend

theorem text_quoted (value : Text) (mark : CaseMark) :
    (ValueWord.quoted .double value mark false).text 0 = quotedText value ++ mark.letters := by
  cases mark with
  | plain => exact (List.append_nil _).symm
  | exact | ignoringCase => rfl

theorem IsWritten.exists_phrase {a : Attribute} (h : IsWritten a) :
    ∃ p : Phrase, written a = p.written .none ∧ a = p.meaning .none ∧ p.IsReadable true ∧
      ¬p.IsFused .none := by
  have hphrase {name : Text} (h : IsName name) (v : ValueWord) :
      ∃ p : Phrase, written ⟨[name], .equals, v.value, v.isSensitive, v.text 0⟩ = p.written .none ∧
        ⟨[name], .equals, v.value, v.isSensitive, v.text 0⟩ = p.meaning .none ∧ p.IsReadable true ∧
          ¬p.IsFused .none :=
    ⟨.compared name h ⟨.equals, v, by simp, fun h => absurd rfl h⟩, rfl, rfl, fun _ _ => .inl rfl,
      Phrase.not_fused_compared (by simp) _⟩
  cases h with
  | quoted name value mark h =>
    have hquoted := hphrase h (.quoted .double value mark false)
    rwa [text_quoted] at hquoted
  | word name word h hw =>
      exact hphrase h (.bare word fun c hc => by simp [isWordChar, hw.chars c hc])

theorem readAttribute_written (a : Attribute) (rest : Text) (h : IsWritten a) :
    readAttribute true (a.name ++ '=' :: (a.raw ++ [']']) ++ rest) = .ok (a, rest) := by
  obtain ⟨p, hwritten, hmeaning, hread, hfree⟩ := h.exists_phrase
  have htext : a.name ++ '=' :: (a.raw ++ [']']) = p.text .none := (List.cons.inj hwritten).2
  rw [htext, Phrase.readAttribute_text hread hfree, ← hmeaning]

/-- A body is read back: a name, which may be empty if attributes follow, and the attributes. -/
theorem read_body (name : Text) (as : List Attribute) (hname : ∀ c ∈ name, isNameChar c = true)
    (h : ∀ a ∈ as, IsWritten a) (hne : name ≠ [] ∨ as ≠ []) :
    AttributeBody.read true (name ++ as.flatMap written) = .ok ⟨name, as⟩ := by
  have hread := read_listed hname (fun a ha rest => readAttribute_written a rest (h a ha)) hne
  rwa [List.map_id''] at hread
  exact fun _ => rfl

/-! ## Bodies as parts of chains -/

theorem sealed_escapeQuoted (c : Char) : Chain.Sealed (escapeQuoted c) := by
  unfold escapeQuoted
  split
  · exact .pair c [] .nil
  · rename_i h
    simp only [not_or] at h
    exact .char c [] h.1 h.2 .nil

theorem closed_alphanum (t : Text) (h : ∀ c ∈ t, c.isAlphanum = true) : Chain.Closed t :=
  .of_inert t fun c hc => (nameChar_facts (isNameChar_alphanum (h c hc))).1

theorem closed_letters (mark : CaseMark) : Chain.Closed mark.letters := by
  cases mark with
  | plain => exact .nil
  | exact => exact .inert 's' _ rfl .nil
  | ignoringCase => exact .inert 'i' _ rfl .nil

theorem IsWritten.closed {a : Attribute} (h : IsWritten a) : Chain.Closed (written a) := by
  have hraw : Chain.Closed a.raw := by
    cases h with
    | quoted name value mark _ =>
      have := Chain.Closed.quoted _ _ (.flatMap _ sealed_escapeQuoted value) (closed_letters mark)
      simpa [ofQuoted, quotedText] using this
    | word name word _ hw => exact closed_alphanum _ hw.chars
  have hname : Chain.Closed a.name :=
    .of_inert _ fun c hc => (nameChar_facts (h.isName.chars c hc)).1
  exact .inert '[' _ rfl (hname.append (.inert '=' _ rfl (hraw.append (.inert ']' _ rfl .nil))))

theorem closed_body (name : Text) (as : List Attribute) (hname : ∀ c ∈ name, isNameChar c = true)
    (h : ∀ a ∈ as, IsWritten a) : Chain.Closed (name ++ as.flatMap written) := by
  have hattributes : Chain.Closed (as.flatMap written) := by
    induction as with
    | nil => exact .nil
    | cons a as ih =>
      exact (h a List.mem_cons_self).closed.append (ih fun b hb => h b (List.mem_cons_of_mem _ hb))
  exact (Chain.Closed.of_inert _ fun c hc => (nameChar_facts (hname c hc)).1).append hattributes

theorem isTrimmed_body (name : Text) (as : List Attribute)
    (hname : ∀ c ∈ name, isNameChar c = true) (hne : name ≠ [] ∨ as ≠ []) :
    Text.IsTrimmed (name ++ as.flatMap written) := by
  have hblank : ∀ c ∈ name, Text.isBlank c = false := fun c hc => (nameChar_facts (hname c hc)).2.1
  rcases List.eq_nil_or_concat as with rfl | ⟨bs, b, has⟩
  · rw [List.flatMap_nil, List.append_nil]
    exact Text.isTrimmed_of_forall (by simpa using hne) hblank
  · rw [List.concat_eq_append] at has
    subst has
    have hlast : ∃ s, name ++ (bs ++ [b]).flatMap written = s ++ [']'] :=
      ⟨name ++ (bs.flatMap written ++ '[' :: (b.name ++ '=' :: b.raw)), by simp [written]⟩
    obtain ⟨s, hs⟩ := hlast
    refine ⟨?_, s, ']', hs, rfl⟩
    cases name with
    | cons c r => exact ⟨c, _, rfl, hblank c List.mem_cons_self⟩
    | nil =>
      cases bs with
      | nil => exact ⟨'[', _, rfl, rfl⟩
      | cons a bs => exact ⟨'[', _, rfl, rfl⟩

end Scenarist.Attribute

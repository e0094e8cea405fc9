import Scenarist.Attribute.Reader
import Scenarist.Proofs.Chain.Joined
import Scenarist.Proofs.Text.Digits

/-! # The words of attributes

Names, texts between quotes and values without quotes, and how each of them is read off the
beginning of a text, whatever follows it.
-/

namespace Scenarist

/-- The letter behind a quoted text: none, `s`, or `i`. -/
inductive CaseMark where
  | plain
  | exact
  | ignoringCase

def CaseMark.letters : CaseMark → Text
  | .plain => []
  | .exact => ['s']
  | .ignoringCase => ['i']

/-- Only behind `i` case does not count. -/
def CaseMark.isSensitive : CaseMark → Bool
  | .ignoringCase => false
  | _ => true

namespace Attribute

/-! ## Characters -/

/-- A name that needs no quotes. -/
structure IsName (t : Text) : Prop where
  ne_nil : t ≠ []
  chars : ∀ c ∈ t, isNameChar c = true

/-- Letters and digits, which need no quotes as a value. -/
structure IsWord (t : Text) : Prop where
  ne_nil : t ≠ []
  chars : ∀ c ∈ t, c.isAlphanum = true

theorem IsName.of_all {t : Text} (h : (!t.isEmpty && t.all isNameChar) = true) : IsName t := by
  simp only [Bool.and_eq_true, Bool.not_eq_true', List.isEmpty_eq_false_iff, List.all_eq_true] at h
  exact ⟨h.1, h.2⟩

theorem IsWord.of_all {t : Text} (h : (!t.isEmpty && t.all Char.isAlphanum) = true) : IsWord t := by
  simp only [Bool.and_eq_true, Bool.not_eq_true', List.isEmpty_eq_false_iff, List.all_eq_true] at h
  exact ⟨h.1, h.2⟩

theorem IsWord.isTrimmed {word : Text} (h : IsWord word) : Text.IsTrimmed word :=
  Text.isTrimmed_of_forall h.ne_nil fun c hc => Text.isBlank_alphanum (h.chars c hc)

theorem nameChar_facts {c : Char} (h : isNameChar c = true) :
    Chain.isInert c = true ∧ Text.isBlank c = false ∧ c ≠ '=' ∧ c ≠ '[' ∧ c ≠ '"' ∧ c ≠ '\'' := by
  simp only [isNameChar, Bool.or_eq_true, beq_iff_eq] at h
  rcases h with ((halnum | rfl) | rfl) | rfl
  · have hne := fun d => Text.ne_of_alphanum (d := d) halnum
    refine ⟨?_, Text.isBlank_alphanum halnum, hne _ (by decide), hne _ (by decide),
      hne _ (by decide), hne _ (by decide)⟩
    simp [Chain.isInert, Chain.isQuote, hne '\\' (by decide), hne '>' (by decide),
      hne '"' (by decide), hne '\'' (by decide), hne '`' (by decide)]
  all_goals decide

theorem isNameChar_alphanum {c : Char} (h : c.isAlphanum = true) : isNameChar c = true := by
  simp [isNameChar, h]

/-- The characters of values without quotes, as far as they are of one byte. -/
def isWordChar (c : Char) : Bool := c.isAlphanum || c == '_' || c == '-' || c == '+' || c == '.'

theorem wordChar_facts {c : Char} (h : isWordChar c = true) :
    isValueChar c = true ∧ Text.isBlank c = false ∧ c ≠ '/' ∧ c ≠ '"' ∧ c ≠ '\'' := by
  simp only [isWordChar, Bool.or_eq_true, beq_iff_eq] at h
  rcases h with (((halnum | rfl) | rfl) | rfl) | rfl
  · have hne := fun d => Text.ne_of_alphanum (d := d) halnum
    exact ⟨by simp [isValueChar, halnum], Text.isBlank_alphanum halnum, hne _ (by decide),
      hne _ (by decide), hne _ (by decide)⟩
  all_goals decide

/-! ## Blanks -/

theorem skipBlanks_cons {c : Char} (r : Text) (h : Text.isBlank c = false) :
    skipBlanks (c :: r) = c :: r := by
  simp [skipBlanks, h]

/-- So many spaces. -/
def spaces (n : Nat) : Text := Text.repeated n ' '

theorem isBlank_spaces {n : Nat} {c : Char} (h : c ∈ spaces n) : Text.isBlank c = true := by
  obtain rfl := List.eq_of_mem_replicate h
  rfl

theorem skipBlanks_spaces (n : Nat) (t : Text) : skipBlanks (spaces n ++ t) = skipBlanks t :=
  List.dropWhile_append_of_pos fun _ => isBlank_spaces

theorem skipBlanks_token (n : Nat) {c : Char} (r : Text) (h : Text.isBlank c = false) :
    skipBlanks (spaces n ++ c :: r) = c :: r := by
  rw [skipBlanks_spaces, skipBlanks_cons r h]

theorem head?_spaces {n : Nat} {c d : Char} {r : Text} (h : d ∈ (spaces n ++ c :: r).head?) :
    (n = 0 ∧ d = c) ∨ d = ' ' := by
  cases n with
  | zero => exact .inl ⟨rfl, (Option.some.inj h).symm⟩
  | succ n => exact .inr (Option.some.inj h).symm

/-! ## Quoted texts -/

/-- The quotes that a text can stand between. -/
inductive Quote where
  | single
  | double

def Quote.sign : Quote → Char
  | .single => '\''
  | .double => '"'

theorem Quote.sign_facts (q : Quote) : q.sign ≠ '\\' ∧ Text.isBlank q.sign = false := by
  cases q <;> decide

/-- The quote and backslashes stand behind a backslash. -/
def escapeFor (q : Quote) (c : Char) : Text := if c = q.sign ∨ c = '\\' then ['\\', c] else [c]

def quotedBy (q : Quote) (t : Text) : Text := q.sign :: (t.flatMap (escapeFor q) ++ [q.sign])

theorem quotedBy_append (q : Quote) (t rest : Text) :
    quotedBy q t ++ rest = q.sign :: (t.flatMap (escapeFor q) ++ q.sign :: rest) := by
  simp [quotedBy]

theorem readQuoted_escaped (q : Quote) (t rest : Text) :
    readQuoted q.sign (t.flatMap (escapeFor q) ++ q.sign :: rest) = .ok (t, rest) := by
  induction t with
  | nil =>
    rw [List.flatMap_nil, List.nil_append, readQuoted, if_pos rfl]
    exact fun _ _ h => absurd h q.sign_facts.1
  | cons c t ih =>
    rw [List.flatMap_cons, List.append_assoc, escapeFor]
    split
    · rw [List.cons_append, List.singleton_append, readQuoted, ih]
      rfl
    · rename_i h
      simp only [not_or] at h
      rw [List.singleton_append, readQuoted, if_neg h.1, ih]
      · rfl
      · exact fun _ _ hc => absurd hc h.2

/-! ## Names -/

theorem readName_append (name rest : Text) (h : IsName name)
    (hrest : ∀ c ∈ rest.head?, isNameChar c = false) : readName (name ++ rest) = (name, rest) := by
  obtain ⟨c, r, rfl⟩ := List.exists_cons_of_ne_nil h.ne_nil
  have hc := (nameChar_facts (h.chars c List.mem_cons_self)).2.1
  rw [readName, List.cons_append, skipBlanks_cons _ hc, ← List.cons_append]
  exact Text.span_append _ _ _ h.chars fun d s hd => hrest d (by rw [hd]; rfl)

end Attribute

end Scenarist

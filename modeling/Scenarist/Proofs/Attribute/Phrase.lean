import Scenarist.Proofs.Attribute.Words
import Scenarist.Proofs.Outcome

/-! # Attributes as they are written

An attribute is written as tokens in brackets, with spaces before any of them. It is read back from
what is written, unless a name takes the sign of the operator behind it.
-/

namespace Scenarist.Attribute

/-! ## Tokens -/

/-- A part of a path: a name, or a text between quotes. -/
inductive PathWord where
  | name (t : Text) (h : IsName t)
  | quoted (q : Quote) (t : Text) (h : t ≠ [])

namespace PathWord

def part : PathWord → Text
  | .name t _ => t
  | .quoted _ t _ => t

def text : PathWord → Text
  | .name t _ => t
  | .quoted q t _ => quotedBy q t

/-- The word ends where `rest` begins: a name takes what could belong to it. -/
def StopsAt (rest : Text) : PathWord → Prop
  | .name _ _ => ∀ c ∈ rest.head?, isNameChar c = false
  | .quoted _ _ _ => True

end PathWord

/-- A word without quotes as a value. -/
def wordValue (word : Text) : AttributeValue :=
  if word = "true" then .bool true else if word = "false" then .bool false else .text word

/-- A value: a text between quotes with a letter behind it, which may be a capital, or a word. -/
inductive ValueWord where
  | quoted (q : Quote) (t : Text) (mark : CaseMark) (capital : Bool)
  | bare (t : Text) (h : ∀ c ∈ t, isWordChar c = true)

def CaseMark.spelled (capital : Bool) (mark : CaseMark) : Text :=
  if capital then mark.letters.map Char.toUpper else mark.letters

namespace ValueWord

def value : ValueWord → AttributeValue
  | .quoted _ t _ _ => .text t
  | .bare t _ => wordValue t

def isSensitive : ValueWord → Bool
  | .quoted _ _ mark _ => mark.isSensitive
  | .bare _ _ => true

def IsQuoted : ValueWord → Prop
  | .quoted _ _ _ _ => True
  | .bare _ _ => False

/-- The value with so many spaces before the letter, if there is one. -/
def text (gap : Nat) : ValueWord → Text
  | .quoted q t .plain _ => quotedBy q t
  | .quoted q t mark capital => quotedBy q t ++ (spaces gap ++ CaseMark.spelled capital mark)
  | .bare t _ => t

end ValueWord

/-- The sign of an operator. -/
def opText : AttributeOp → Text
  | .truthy => ""
  | .equals => "="
  | .contains => "*="
  | .startsWith => "^="
  | .endsWith => "$="
  | .dashMatch => "|="
  | .word => "~="

/-- An operator and a value. -/
structure Comparison where
  op : AttributeOp
  value : ValueWord
  isOperator : op ≠ .truthy
  /-- What is no text is compared for equality only. -/
  isText : op ≠ .equals → AttributeValue.isText value.value = true

/-- An attribute without its spaces. The owners are the parts of the path before the last one. -/
structure Phrase where
  owners : List PathWord
  last : PathWord
  comparison : Option Comparison

/-- How many spaces stand before the tokens of an attribute. -/
structure Gaps where
  /-- Before the first part of the path, the point behind it, the next part, and so on. -/
  path : Nat → Nat
  op : Nat
  value : Nat
  mark : Nat
  close : Nat

namespace Phrase

def path (p : Phrase) : List Text := p.owners.map PathWord.part ++ [p.last.part]

/-- What the phrase says, with the value as it is written. -/
def meaning (g : Gaps) (p : Phrase) : Attribute :=
  match p.comparison with
  | none => ⟨p.path, .truthy, .none, false, []⟩
  | some s => ⟨p.path, s.op, s.value.value, s.value.isSensitive, s.value.text g.mark⟩

/-- The path, with `gaps` before its words and points. -/
def pathText (last : PathWord) (gaps : Nat → Nat) : List PathWord → Text
  | [] => spaces (gaps 0) ++ last.text
  | w :: ws => spaces (gaps 0) ++
    (w.text ++ (spaces (gaps 1) ++ '.' :: pathText last (fun n => gaps (n + 2)) ws))

/-- What stands behind the path, up to the closing bracket. -/
def tail (g : Gaps) (p : Phrase) : Text :=
  match p.comparison with
  | none => spaces g.close ++ [']']
  | some s => spaces g.op ++
      (opText s.op ++ (spaces g.value ++ (s.value.text g.mark ++ (spaces g.close ++ [']']))))

def text (g : Gaps) (p : Phrase) : Text := pathText p.last g.path p.owners ++ p.tail g

/-- The attribute in its brackets. -/
def written (g : Gaps) (p : Phrase) : Text := '[' :: p.text g

end Phrase

/-! ## Paths -/

theorem PathWord.stopsAt_of_head {rest : Text} (h : ∀ c ∈ rest.head?, isNameChar c = false)
    (w : PathWord) :
    w.StopsAt rest := by
  cases w with
  | name t ht => exact h
  | quoted q t ht => trivial

theorem readPathPart_word (n : Nat) (w : PathWord) (rest : Text) (h : w.StopsAt rest) :
    readPathPart (spaces n ++ (w.text ++ rest)) = .ok (w.part, rest) := by
  unfold readPathPart
  rw [skipBlanks_spaces]
  cases w with
  | name t ht =>
    have hread := readName_append t rest ht h
    obtain ⟨c, r, rfl⟩ := List.exists_cons_of_ne_nil ht.ne_nil
    obtain ⟨-, hblank, -, -, hdouble, hsingle⟩ := nameChar_facts (ht.chars c List.mem_cons_self)
    rw [PathWord.text, List.cons_append, skipBlanks_cons _ hblank]
    dsimp only
    split
    · rename_i heq
      exact absurd (List.cons.inj heq).1 hsingle
    · rename_i heq
      exact absurd (List.cons.inj heq).1 hdouble
    · rw [← List.cons_append, hread, ok_bind]
      rfl
  | quoted q t ht =>
    have hread := readQuoted_escaped q t rest
    rw [PathWord.text, quotedBy_append, skipBlanks_cons _ q.sign_facts.2]
    cases q <;>
    · dsimp only [Quote.sign] at hread ⊢
      change (readQuoted _ _ >>= _) = _
      rw [hread, ok_bind]
      exact if_neg ht

theorem readPath_pathText {last : PathWord} {rest : Text} (hstop : last.StopsAt rest)
    (hpoint : ∀ r, skipBlanks rest ≠ '.' :: r) (owners : List PathWord) (gaps : Nat → Nat)
    (fuel : Nat)
    (hfuel : owners.length < fuel) :
    readPath fuel (Phrase.pathText last gaps owners ++ rest) =
      .ok (owners.map PathWord.part ++ [last.part], skipBlanks rest) := by
  induction owners generalizing gaps fuel with
  | nil =>
    obtain ⟨n, rfl⟩ := Nat.exists_eq_add_of_lt hfuel
    rw [Phrase.pathText, List.append_assoc, readPath, readPathPart_word _ _ _ hstop, ok_bind]
    dsimp only
    split
    · rename_i heq
      exact absurd heq (hpoint _)
    · rfl
  | cons w owners ih =>
    obtain ⟨n, rfl⟩ := Nat.exists_eq_add_of_lt hfuel
    have hword : w.StopsAt
        (spaces (gaps 1) ++ '.' ::
      (Phrase.pathText last (fun n => gaps (n + 2)) owners ++ rest)) := by
      refine w.stopsAt_of_head fun c hc => ?_
      rcases head?_spaces hc with ⟨-, rfl⟩ | rfl <;> rfl
    have hrest := ih (fun n => gaps (n + 2)) (owners.length + 1 + n) (by omega)
    simp only [Phrase.pathText, List.append_assoc, List.cons_append]
    rw [List.length_cons, readPath, readPathPart_word _ _ _ hword, ok_bind]
    dsimp only
    rw [skipBlanks_token _ _ rfl]
    change (readPath _ _ >>= _) = _
    rw [hrest]
    rfl

theorem length_le_pathText (last : PathWord) (gaps : Nat → Nat) (owners : List PathWord) :
    owners.length ≤ (Phrase.pathText last gaps owners).length := by
  induction owners generalizing gaps with
  | nil => simp
  | cons w owners ih =>
    have hrest := ih fun n => gaps (n + 2)
    simp only [Phrase.pathText, List.length_append, List.length_cons]
    omega

/-! ## Operators and values -/

/-- No operator begins like a token beside it, but for the dollar sign, which may belong to a
name. -/
theorem opText_facts {op : AttributeOp} (h : op ≠ .truthy) :
    ∃ c r, opText op = c :: r ∧ Text.isBlank c = false ∧ c ≠ '.' ∧ c ≠ ']' ∧
      (op ≠ .endsWith → isNameChar c = false) := by
  cases op with
  | truthy => exact absurd rfl h
  | equals | contains | startsWith | endsWith | dashMatch | word => exact ⟨_, _, rfl, by decide⟩

theorem readOp_opText {op : AttributeOp} (h : op ≠ .truthy) (rest : Text) :
    readOp (opText op ++ rest) = .ok (op, rest) := by
  cases op with
  | truthy => exact absurd rfl h
  | equals | contains | startsWith | endsWith | dashMatch | word => rfl

theorem readCase_plain (n : Nat) (rest : Text) :
    readCase (spaces n ++ ']' :: rest) = (true, ']' :: rest) := by
  rw [readCase, skipBlanks_token _ _ rfl]
  rfl

theorem readCase_spelled (n : Nat) (mark : CaseMark) (capital : Bool) (h : mark ≠ .plain)
    (rest : Text) :
    readCase (spaces n ++ (CaseMark.spelled capital mark ++ rest)) = (mark.isSensitive, rest) := by
  cases mark with
  | plain => exact absurd rfl h
  | exact | ignoringCase =>
    cases capital <;>
    · rw [readCase]
      dsimp only [CaseMark.spelled, CaseMark.letters]
      simp only [List.map_cons, List.map_nil, List.singleton_append, Bool.false_eq_true, if_true,
        if_false]
      rw [skipBlanks_token n rest (by decide)]
      rfl

theorem readValue_quoted (allowText : Bool) (op : AttributeOp) (q : Quote) (t rest : Text) :
    readValue allowText op (quotedBy q t ++ rest) = .ok (.text t, readCase rest) := by
  have hread := readQuoted_escaped q t rest
  rw [quotedBy_append]
  cases q <;>
  · dsimp only [Quote.sign] at hread ⊢
    change (readQuoted _ _ >>= _) = _
    rw [hread]
    rfl

theorem readValue_bare (op : AttributeOp) {t rest : Text} (h : ∀ c ∈ t, isWordChar c = true)
    (hrest : ∀ c ∈ rest.head?, c = ']' ∨ c = ' ') :
      readValue true op (t ++ rest) = .ok (wordValue t, true, rest) := by
  have hspan : (t ++ rest).span isValueChar = (t, rest) := by
    refine Text.span_append _ _ _ (fun c hc => (wordChar_facts (h c hc)).1) fun c r hcons => ?_
    rcases hrest c (by rw [hcons]; rfl) with rfl | rfl <;> decide
  have hread : readUnquoted true (t ++ rest) = .ok (wordValue t, rest) := by
    rw [readUnquoted, hspan]
    unfold wordValue
    dsimp only
    split
    · rfl
    split <;> rfl
  have hhead : ∀ c r, t ++ rest = c :: r → c ≠ '/' ∧ c ≠ '"' ∧ c ≠ '\'' := by
    intro c r heq
    cases t with
    | nil =>
      rcases hrest c (by rw [← List.nil_append rest, heq]; rfl) with rfl | rfl <;> decide
    | cons d t =>
      obtain rfl := (List.cons.inj heq).1
      exact (wordChar_facts (h d List.mem_cons_self)).2.2
  unfold readValue
  split
  · exact absurd rfl (hhead _ _ ‹_›).1
  · exact absurd rfl (hhead _ _ ‹_›).2.2
  · exact absurd rfl (hhead _ _ ‹_›).2.1
  · rw [hread]
    rfl

namespace ValueWord

theorem text_trimmed (v : ValueWord) (gap : Nat) :
    v.text gap = [] ∨ Text.IsTrimmed (v.text gap) := by
  have hquoted (q : Quote) (t rest : Text) : ∃ c r, quotedBy q t ++ rest = c :: r ∧
      Text.isBlank c = false :=
    ⟨q.sign, _, quotedBy_append q t rest, q.sign_facts.2⟩
  cases v with
  | quoted q t mark capital =>
    right
    cases mark with
    | plain =>
      refine ⟨by simpa [text] using hquoted q t [], q.sign :: t.flatMap (escapeFor q), q.sign, ?_,
        q.sign_facts.2⟩
      simp [text, quotedBy]
    | exact | ignoringCase =>
      refine ⟨hquoted q t _, ?_⟩
      cases capital <;>
      exact ⟨quotedBy q t ++ spaces gap, _, (List.append_assoc _ _ _).symm, by decide⟩
  | bare t h =>
    by_cases hnil : t = []
    · exact .inl hnil
    · exact .inr (Text.isTrimmed_of_forall hnil fun c hc => (wordChar_facts (h c hc)).2.1)

theorem trim_text (v : ValueWord) (gap n : Nat) :
    Text.trim (v.text gap ++ spaces n) = v.text gap := by
  have hpad := Text.trim_pad [] (v.text gap) (spaces n) (by simp) fun _ => isBlank_spaces
  rw [List.nil_append] at hpad
  rw [hpad]
  rcases v.text_trimmed gap with h | h
  · rw [h]
    rfl
  · exact Text.trim_trimmed _ h

theorem readValue_text {allowText : Bool} {v : ValueWord} (h : allowText = true ∨ v.IsQuoted)
    (op : AttributeOp)
    (gap close : Nat) (rest : Text) :
    ∃ k n, skipBlanks (v.text gap ++ (spaces close ++ ']' :: rest)) =
        v.text gap ++ (spaces k ++ (spaces n ++ ']' :: rest)) ∧
      readValue allowText op (v.text gap ++ (spaces k ++ (spaces n ++ ']' :: rest))) =
        .ok (v.value, v.isSensitive, spaces n ++ ']' :: rest) := by
  have hskip (q : Quote) (t u : Text) : skipBlanks (quotedBy q t ++ u) = quotedBy q t ++ u := by
    rw [quotedBy_append, skipBlanks_cons _ q.sign_facts.2]
  cases v with
  | quoted q t mark capital =>
    cases mark with
    | plain =>
      refine ⟨close, 0, hskip q t _, ?_⟩
      rw [text, readValue_quoted]
      exact congrArg (fun r => Except.ok (AttributeValue.text t, r)) (readCase_plain close rest)
    | exact | ignoringCase =>
      -- the spaces behind a letter are left to the bracket
      refine ⟨0, close, ?_, ?_⟩
      · simp only [text, List.append_assoc]
        exact hskip _ _ _
      · simp only [text, List.append_assoc]
        rw [readValue_quoted, readCase_spelled _ _ _ (by simp)]
        rfl
  | bare t ht =>
    have hallow : allowText = true := h.resolve_right id
    subst hallow
    have hbehind (n : Nat) : ∀ c ∈ (spaces n ++ ']' :: rest).head?, c = ']' ∨ c = ' ' := fun c hc =>
      (head?_spaces hc).imp And.right id
    cases t with
    | nil => exact ⟨0, 0, skipBlanks_token close rest rfl, readValue_bare op ht (hbehind 0)⟩
    | cons c t =>
      exact ⟨0, close, skipBlanks_cons _ (wordChar_facts (ht c List.mem_cons_self)).2.1,
        readValue_bare op ht (hbehind close)⟩

end ValueWord

/-! ## Attributes -/

namespace Phrase

/-- The last name of the path takes the sign of the operator directly behind it. -/
def IsFused (g : Gaps) (p : Phrase) : Prop :=
  g.op = 0 ∧ (∃ t h, p.last = .name t h) ∧ ∃ s ∈ p.comparison, s.op = .endsWith

/-- All values without quotes can be read. -/
def IsReadable (allowText : Bool) (p : Phrase) : Prop :=
  ∀ s ∈ p.comparison, allowText = true ∨ s.value.IsQuoted

variable {g : Gaps} {p : Phrase}

theorem stopsAt_tail (h : ¬p.IsFused g) (rest : Text) : p.last.StopsAt (p.tail g ++ rest) := by
  obtain ⟨owners, last, comparison⟩ := p
  cases last with
  | quoted q t ht => trivial
  | name t ht =>
    intro c hc
    cases comparison with
    | none =>
      rw [tail, List.append_assoc] at hc
      rcases head?_spaces hc with ⟨-, rfl⟩ | rfl <;> rfl
    | some s =>
      obtain ⟨d, r, hop, -, -, -, hname⟩ := opText_facts s.isOperator
      dsimp only [tail] at hc
      rw [List.append_assoc, hop, List.cons_append, List.cons_append] at hc
      rcases head?_spaces hc with ⟨hgap, rfl⟩ | rfl
      · exact hname fun hend => h ⟨hgap, ⟨t, ht, rfl⟩, s, rfl, hend⟩
      · rfl

theorem tail_not_point (g : Gaps) (p : Phrase) (rest r : Text) :
    skipBlanks (p.tail g ++ rest) ≠ '.' :: r := by
  obtain ⟨owners, last, comparison⟩ := p
  cases comparison with
  | none =>
    rw [tail, List.append_assoc, List.singleton_append, skipBlanks_token _ _ rfl]
    simp
  | some s =>
    obtain ⟨c, u, hop, hblank, hpoint, -⟩ := opText_facts s.isOperator
    dsimp only [tail]
    rw [List.append_assoc, hop, List.cons_append, List.cons_append, skipBlanks_token _ _ hblank]
    simp [hpoint]

theorem readPath_text (h : ¬p.IsFused g) (rest : Text) :
    readPath ((p.text g ++ rest).length + 1) (p.text g ++ rest) =
      .ok (p.path, skipBlanks (p.tail g ++ rest)) := by
  have hlen := length_le_pathText p.last g.path p.owners
  rw [text, List.append_assoc]
  refine readPath_pathText (stopsAt_tail h rest) (p.tail_not_point g rest) _ _ _ ?_
  rw [List.length_append]
  omega

theorem readAttribute_text {allowText : Bool} (hread : p.IsReadable allowText) (h : ¬p.IsFused g)
    (rest : Text) :
    readAttribute allowText (p.text g ++ rest) = .ok (p.meaning g, rest) := by
  rw [readAttribute, readPath_text h, ok_bind]
  obtain ⟨owners, last, comparison⟩ := p
  cases comparison with
  | none =>
    dsimp only [tail]
    rw [List.append_assoc, List.singleton_append, skipBlanks_token _ _ rfl]
    rfl
  | some s =>
    obtain ⟨c, u, hop, hblank, -, hbracket, -⟩ := opText_facts s.isOperator
    obtain ⟨k, n, hstart, hvalue⟩ := ValueWord.readValue_text (hread s rfl) s.op g.mark g.close rest
    have hpath : skipBlanks (tail g ⟨owners, last, some s⟩ ++ rest) =
        opText s.op ++
          (spaces g.value ++ (s.value.text g.mark ++ (spaces g.close ++ ']' :: rest))) := by
      dsimp only [tail]
      simp only [List.append_assoc, List.singleton_append]
      rw [hop, List.cons_append, skipBlanks_token _ _ hblank]
    have htake : Text.trim ((s.value.text g.mark ++ (spaces k ++ (spaces n ++ ']' :: rest))).take
        ((s.value.text g.mark ++ (spaces k ++ (spaces n ++ ']' :: rest))).length -
        (spaces n ++ ']' :: rest).length)) =
          s.value.text g.mark := by
      rw [← List.append_assoc, List.length_append, Nat.add_sub_cancel, List.take_left']
      · exact s.value.trim_text g.mark k
      · rfl
    rw [hpath]
    dsimp only
    split
    · rename_i heq
      rw [hop] at heq
      exact absurd (List.cons.inj heq).1 hbracket
    rw [readOp_opText s.isOperator, ok_bind]
    dsimp only
    rw [skipBlanks_spaces, hstart, hvalue, ok_bind]
    dsimp only
    rw [skipBlanks_token _ _ rfl, htake]
    refine if_neg fun hrefused => ?_
    have htext := s.isText hrefused.1
    simp [htext] at hrefused

end Phrase

end Scenarist.Attribute

import Scenarist.Proofs.Attribute.Phrase

/-! # Bodies of attributes

A body is read back as its name and its attributes in order. Spaces between the tokens of an
attribute make no difference, but for one place: directly behind a name the dollar sign of an
operator belongs to the name.
-/

namespace Scenarist.Attribute

/-! ## Attributes behind each other -/

section

variable {α : Type} {allowText : Bool} (text : α → Text) (said : α → Attribute)

theorem skipBlanks_listed (l : List α) :
    skipBlanks (l.flatMap fun x => '[' :: text x) = l.flatMap fun x => '[' :: text x := by
  cases l with
  | nil => rfl
  | cons x l => exact skipBlanks_cons _ rfl

theorem length_le_listed (l : List α) : l.length ≤ (l.flatMap fun x => '[' :: text x).length := by
  induction l with
  | nil => simp
  | cons x l ih =>
    rw [List.flatMap_cons, List.length_append, List.length_cons, List.length_cons]
    omega

variable {text said}

theorem readAttributes_listed (l : List α)
    (h : ∀ x ∈ l, ∀ rest, readAttribute allowText (text x ++ rest) = .ok (said x, rest))
    (fuel : Nat)
    (hfuel : l.length < fuel) :
    readAttributes allowText fuel (l.flatMap fun x => '[' :: text x) = .ok (l.map said, []) := by
  induction l generalizing fuel with
  | nil =>
    obtain ⟨n, rfl⟩ := Nat.exists_eq_add_of_lt hfuel
    rfl
  | cons x l ih =>
    obtain ⟨n, rfl⟩ := Nat.exists_eq_add_of_lt hfuel
    have hrest := ih (fun y hy => h y (List.mem_cons_of_mem _ hy)) (l.length + 1 + n) (by omega)
    rw [List.flatMap_cons, List.cons_append, List.length_cons, readAttributes]
    dsimp only
    rw [h x List.mem_cons_self, ok_bind]
    dsimp only
    rw [skipBlanks_listed, hrest]
    rfl

theorem read_listed {name : Text} (hname : ∀ c ∈ name, isNameChar c = true) {l : List α}
    (h : ∀ x ∈ l, ∀ rest, readAttribute allowText (text x ++ rest) = .ok (said x, rest))
    (hne : name ≠ [] ∨ l ≠ []) :
    AttributeBody.read allowText (name ++ l.flatMap fun x => '[' :: text x) =
      .ok ⟨name, l.map said⟩ := by
  have hread : readName (name ++ l.flatMap fun x => '[' :: text x) =
      (name, l.flatMap fun x => '[' :: text x) := by
    have hbracket : ∀ c ∈ (l.flatMap fun x => '[' :: text x).head?, isNameChar c = false := by
      intro c hc
      cases l with
      | nil => cases hc
      | cons x l =>
        obtain rfl := Option.some.inj hc
        rfl
    by_cases hnil : name = []
    · subst hnil
      rw [List.nil_append, readName, skipBlanks_listed]
      exact Text.span_append _ [] _ (by simp) fun c r hcons =>
        hbracket c (by rw [List.flatMap, hcons]; rfl)
    · exact readName_append _ _ ⟨hnil, hname⟩ hbracket
  have hlen := length_le_listed text l
  have hbody : readBody allowText (name ++ l.flatMap fun x => '[' :: text x) =
      .ok ⟨name, l.map said⟩ := by
    rw [readBody, hread]
    dsimp only
    rw [skipBlanks_listed, readAttributes_listed l h _ (by rw [List.length_append]; omega), ok_bind]
    rfl
  rw [AttributeBody.read, hbody]
  dsimp only
  rw [if_neg]
  rintro ⟨rfl, hmap⟩
  obtain rfl := List.map_eq_nil_iff.mp hmap
  simp at hne

end

/-! ## One space before each operator -/

/-- No spaces but one between the path and the operator. -/
def Gaps.beforeOp : Gaps := ⟨fun _ => 0, 1, 0, 0, 0⟩

/-- A name, which may be empty if attributes follow, and attributes of any kind are read back in
order, each with its path, its operator, its value and how that is written. -/
theorem read_phrases (name : Text) (hname : ∀ c ∈ name, isNameChar c = true) (ps : List Phrase)
    (hne : name ≠ [] ∨ ps ≠ []) :
    AttributeBody.read true (name ++ ps.flatMap (Phrase.written .beforeOp)) =
      .ok ⟨name, ps.map (Phrase.meaning .beforeOp)⟩ := by
  refine read_listed hname (fun p _ rest => ?_) hne
  refine p.readAttribute_text (fun s _ => .inl rfl) (fun hfused => ?_) rest
  exact absurd hfused.1 (by decide)

/-- A path with a point in a quoted word, a letter behind the quote, a truth value and no value. -/
theorem read_phrases_button :
    let ps : List Phrase :=
      [⟨[.quoted .double "a.b" (by decide)], .name "label" (.of_all (by decide)),
          some ⟨.endsWith, .quoted .single "it's\\" .ignoringCase false, by decide, fun _ => rfl⟩⟩,
        ⟨[], .name "pressed" (.of_all (by decide)),
          some ⟨.equals, .bare "true" (List.all_eq_true.mp (by decide)), by decide, nofun⟩⟩,
        ⟨[], .name "disabled" (.of_all (by decide)), none⟩]
    "button" ++ ps.flatMap (Phrase.written .beforeOp) =
        "button[\"a.b\".label $='it\\'s\\\\'i][pressed =true][disabled]" ∧
      AttributeBody.read true ("button" ++ ps.flatMap (Phrase.written .beforeOp)) =
        .ok ⟨"button",
          [⟨["a.b", "label"], .endsWith, .text "it's\\", false, "'it\\'s\\\\'i"⟩,
            ⟨["pressed"], .equals, .bool true, true, "true"⟩,
            ⟨["disabled"], .truthy, .none, false, []⟩]⟩ := by
  intro ps
  exact ⟨by rfl, read_phrases "button" (List.all_eq_true.mp (by decide)) ps (.inl (by decide))⟩

/-! ## Any spaces -/

/-- The same path, operator and value, and case counts the same. -/
def SaysSame (a b : Attribute) : Prop := { a with raw := [] } = { b with raw := [] }

namespace Phrase

variable {g g' : Gaps} {p : Phrase} {allowText : Bool}

theorem read_written (hread : p.IsReadable allowText) (h : ¬p.IsFused g) :
    AttributeBody.read allowText (p.written g) = .ok ⟨[], [p.meaning g]⟩ := by
  have hattribute :
      ∀ q ∈ [p], ∀ rest, readAttribute allowText (text g q ++ rest) = .ok (meaning g q, rest) := by
    intro q hq rest
    obtain rfl := List.mem_singleton.mp hq
    exact readAttribute_text hread h rest
  simpa [written] using read_listed (List.forall_mem_nil _) hattribute (.inr (by simp))

/-- The phrase with the dollar sign of the operator at the end of the name. -/
def fuse : Phrase → Phrase
  | ⟨owners, .name t h, some s⟩ =>
    ⟨owners, .name (t ++ ['$'])
      ⟨by simp, List.forall_mem_append.mpr ⟨h.chars, List.forall_mem_singleton.mpr rfl⟩⟩,
      some { s with op := .equals, isOperator := nofun, isText := fun h => absurd rfl h }⟩
  | p => p

theorem pathText_fuse (t : Text) (h : IsName t) (h' : IsName (t ++ ['$'])) (owners : List PathWord)
    (gaps : Nat → Nat)
    (rest : Text) :
    pathText (.name (t ++ ['$']) h') gaps owners ++ rest = pathText (.name t h) gaps owners ++
      '$' :: rest := by
  induction owners generalizing gaps with
  | nil => simp [pathText, PathWord.text]
  | cons w owners ih => simp only [pathText, List.append_assoc, List.cons_append, ih]

theorem text_fuse (h : p.IsFused g) : p.fuse.text g = p.text g ∧ ¬p.fuse.IsFused g := by
  obtain ⟨owners, last, comparison⟩ := p
  obtain ⟨hgap, ⟨t, ht, rfl⟩, s, rfl, hop⟩ := h
  constructor
  · simp only [fuse, text, tail, pathText_fuse t ht, hop, hgap]
    rfl
  · rintro ⟨-, -, s', hs', hop'⟩
    obtain rfl := Option.some.inj hs'
    cases hop'

theorem isReadable_fuse (h : p.IsReadable allowText) : p.fuse.IsReadable allowText := by
  unfold fuse
  split
  · have hvalue := h _ rfl
    rintro s ⟨⟩
    exact hvalue
  · exact h

theorem read_fused (hread : p.IsReadable allowText) (h : p.IsFused g) :
    AttributeBody.read allowText (p.written g) = .ok ⟨[], [p.fuse.meaning g]⟩ := by
  have htext := text_fuse h
  rw [written, ← htext.1]
  exact read_written (isReadable_fuse hread) htext.2

theorem meaning_says_same (g g' : Gaps) (p : Phrase) : (p.meaning g).SaysSame (p.meaning g') := by
  obtain ⟨owners, last, comparison⟩ := p
  cases comparison <;> rfl

theorem fuse_says_other (h : p.IsFused g) (g₁ g₂ : Gaps) :
    ¬(p.fuse.meaning g₁).SaysSame (p.meaning g₂) := by
  obtain ⟨owners, last, comparison⟩ := p
  obtain ⟨-, ⟨t, ht, rfl⟩, s, rfl, hop⟩ := h
  intro hsame
  have hops := congrArg Attribute.op hsame
  dsimp only [fuse, meaning] at hops
  rw [hop] at hops
  cases hops

/-- Every phrase is read: as what it says, or with the dollar sign in the name. -/
theorem exists_read (hread : p.IsReadable allowText) (g : Gaps) :
    ∃ a, AttributeBody.read allowText (p.written g) = .ok ⟨[], [a]⟩ ∧
      (p.IsFused g ∧ a = p.fuse.meaning g ∨ ¬p.IsFused g ∧ a = p.meaning g) := by
  by_cases h : p.IsFused g
  · exact ⟨_, read_fused hread h, .inl ⟨h, rfl⟩⟩
  · exact ⟨_, read_written hread h, .inr ⟨h, rfl⟩⟩

/-- Two ways to write an attribute that differ in their spaces are read as the same path, operator,
value and case, unless in one of them, and not in the other, a name takes the dollar sign of the
operator directly behind it. Only then something else is read than the attribute says. -/
theorem gaps_immaterial_iff (hread : p.IsReadable allowText) (g g' : Gaps) :
    ∃ a a', AttributeBody.read allowText (p.written g) = .ok ⟨[], [a]⟩ ∧
      AttributeBody.read allowText (p.written g') = .ok ⟨[], [a']⟩ ∧
      (a.SaysSame (p.meaning g) ↔ ¬p.IsFused g) ∧ (p.IsFused g → a = p.fuse.meaning g) ∧
      (a.SaysSame a' ↔ (p.IsFused g ↔ p.IsFused g')) := by
  obtain ⟨a, ha, hcases⟩ := exists_read hread g
  obtain ⟨a', ha', hcases'⟩ := exists_read hread g'
  refine ⟨a, a', ha, ha', ?_⟩
  rcases hcases with ⟨h, rfl⟩ | ⟨h, rfl⟩ <;> rcases hcases' with ⟨h', rfl⟩ | ⟨h', rfl⟩
  · simp [h, h', fuse_says_other h, meaning_says_same]
  · simp [h, h', fuse_says_other h]
  · have hother : ¬(p.meaning g).SaysSame (p.fuse.meaning g') :=
      fun hsame => fuse_says_other h' g' g hsame.symm
    simp [h, h', hother, meaning_says_same]
  · simp [h, h', meaning_says_same]

/-- With a space before the operator nothing is taken. -/
theorem gaps_immaterial_surname :
    let p : Phrase :=
  ⟨[.quoted .double "first name" (by decide)], .name "data" (.of_all (by decide)),
      some ⟨.endsWith, .quoted .single "O'Hara" .ignoringCase true, by decide, fun _ => rfl⟩⟩
    let g : Gaps := ⟨fun n => n, 2, 1, 1, 3⟩
    p.IsReadable false ∧ p.written .beforeOp = "[\"first name\".data $='O\\'Hara'I]" ∧
      p.written g = "[\"first name\" .  data  $= 'O\\'Hara' I   ]" ∧
      ∃ a a', AttributeBody.read false (p.written .beforeOp) = .ok ⟨[], [a]⟩ ∧
        AttributeBody.read false (p.written g) = .ok ⟨[], [a']⟩ ∧ a.SaysSame a' := by
  intro p g
  have hread : p.IsReadable false := by
    rintro s ⟨⟩
    exact .inr trivial
  have hfree (n : Nat) : n ≠ 0 → ∀ g : Gaps, g.op = n → ¬p.IsFused g :=
    fun hn g hg h => hn (hg ▸ h.1)
  obtain ⟨a, a', ha, ha', -, -, hiff⟩ := gaps_immaterial_iff hread .beforeOp g
  refine ⟨hread, by rfl, by rfl, a, a', ha, ha', hiff.mpr ?_⟩
  simp [hfree 1 (by simp) .beforeOp rfl, hfree 2 (by simp) g rfl]

/-- Directly behind a name the dollar sign belongs to the name. -/
theorem dollar_taken_by_name :
    let a : Attribute := ⟨["name$"], .equals, .text "pay", true, "\"pay\""⟩
    let b : Attribute := ⟨["name"], .endsWith, .text "pay", true, "\"pay\""⟩
    AttributeBody.read true "[name$=\"pay\"]" = .ok ⟨[], [a]⟩ ∧
      AttributeBody.read true "[name $=\"pay\"]" = .ok ⟨[], [b]⟩ ∧ ¬a.SaysSame b := by
  refine ⟨by rfl, by rfl, ?_⟩
  unfold SaysSame
  decide

end Phrase

end Scenarist.Attribute

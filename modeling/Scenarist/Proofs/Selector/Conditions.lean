import Scenarist.Proofs.Selector.Query
import Scenarist.Proofs.Text.Digits
import Mathlib.Data.List.Nodup

/-! # Elements of queries

The part that names the element of a query is understood as that element, whatever the order of
the conditions on a role.
-/

namespace Scenarist

/-! ## Matchers -/

theorem Wording.ofSpecifier_written (w : Wording) :
    TextMatcher.ofSpecifier w.written = w.matcher := by
  obtain ⟨t, mark⟩ := w
  have hregex : ∀ s, TextMatcher.regexLiteral? (Json.quote t ++ s) = none := fun s => rfl
  have hquoted : TextMatcher.quoted? (Json.quote t) = some t := by
    rw [TextMatcher.quoted?, if_pos (by rfl), Json.readString?_quote]
  have hopen : ∀ c, c ≠ '"' → Text.dropEnd? [c] (Json.quote t) = none := fun c hc =>
    Text.dropEnd?_last_ne ('"' :: t.flatMap Json.escapeChar) hc
  rw [TextMatcher.ofSpecifier, Wording.written, hregex]
  cases mark with
  | plain =>
    rw [CaseMark.letters, List.append_nil, TextMatcher.quotedWithCase?, hopen 's' (by decide),
      hopen 'i' (by decide), hquoted]
    rfl
  | exact =>
    rw [CaseMark.letters, TextMatcher.quotedWithCase?, Text.dropEnd?_append]
    dsimp only
    rw [hquoted]
    rfl
  | ignoringCase =>
    have hs : Text.dropEnd? ['s'] (Json.quote t ++ ['i']) = none :=
      Text.dropEnd?_last_ne _ (by decide)
    rw [CaseMark.letters, TextMatcher.quotedWithCase?, hs, Text.dropEnd?_append, Option.bind_some,
      hquoted]
    rfl

theorem attributeMatcher?_attribute (name : Text) (w : Wording) :
    Chain.attributeMatcher? (w.attribute name) = some w.matcher := by
  obtain ⟨t, mark⟩ := w
  have hbegins : ∀ s, Chain.beginsQuoted (Attribute.quotedText t ++ s) = true := fun s => rfl
  have hplain : (Attribute.quotedText t).getLast? = some '"' := by
    rw [Attribute.quotedText, ← List.cons_append, List.getLast?_concat]
  rw [Wording.attribute, Attribute.ofQuoted, Chain.attributeMatcher?]
  dsimp only
  rw [if_pos (hbegins _)]
  cases mark with
  | plain => simp [CaseMark.isSensitive, CaseMark.letters, hplain, Wording.matcher]
  | exact => simp [CaseMark.isSensitive, CaseMark.letters, Wording.matcher]
  | ignoringCase => simp [CaseMark.isSensitive, Wording.matcher]

/-! ## Folds of notes -/

theorem Chain.addConditions_quiet (r : RoleElement) (as : List Attribute)
    (h : ∀ a ∈ as, ∀ r, (addCondition r a).warnings = []) :
    addConditions r as = .quiet (as.foldl (fun r a => (addCondition r a).value) r) := by
  induction as generalizing r with
  | nil => rfl
  | cons a as ih =>
    rw [addConditions, Noted.andThen, ih _ fun b hb => h b (List.mem_cons_of_mem _ hb),
      h a List.mem_cons_self]
    rfl

theorem Chain.addCondition_cases (a : Attribute) :
    (a.name = "name" ∧ ∀ r, (addCondition r a).value = { r with name := attributeMatcher? a }) ∨
    (a.name = "include-hidden" ∧ ∀ r, (addCondition r a).value =
      { r with includeHidden := (state a).value.bind AriaState.toBool? }) ∨
    (a.name = "checked" ∧ ∀ r, (addCondition r a).value = { r with checked := (state a).value }) ∨
    (a.name = "pressed" ∧ ∀ r, (addCondition r a).value = { r with pressed := (state a).value }) ∨
    (a.name = "selected" ∧ ∀ r, (addCondition r a).value = { r with selected := (state a).value }) ∨
    (a.name = "expanded" ∧ ∀ r, (addCondition r a).value = { r with expanded := (state a).value }) ∨
    (a.name = "disabled" ∧ ∀ r, (addCondition r a).value = { r with disabled := (state a).value }) ∨
    (a.name = "level" ∧ ∀ r, (addCondition r a).value = { r with level := a.value.toLevel? }) ∨
    ∀ r, (addCondition r a).value = r := by
  by_cases hname : a.name = "name"
  · exact .inl ⟨hname, fun r => by rw [addCondition, if_pos hname]; rfl⟩
  refine .inr ?_
  by_cases hhidden : a.name = "include-hidden"
  · exact .inl ⟨hhidden, fun r => by rw [addCondition, if_neg hname, if_pos hhidden]; rfl⟩
  refine .inr ?_
  simp only [addCondition, if_neg hname, if_neg hhidden]
  by_cases hchecked : a.name = "checked"
  · exact .inl ⟨hchecked, fun r => by rw [if_pos hchecked]; rfl⟩
  refine .inr ?_
  simp only [if_neg hchecked]
  by_cases hpressed : a.name = "pressed"
  · exact .inl ⟨hpressed, fun r => by rw [if_pos hpressed]; rfl⟩
  refine .inr ?_
  simp only [if_neg hpressed]
  by_cases hselected : a.name = "selected"
  · exact .inl ⟨hselected, fun r => by rw [if_pos hselected]; rfl⟩
  refine .inr ?_
  simp only [if_neg hselected]
  by_cases hexpanded : a.name = "expanded"
  · exact .inl ⟨hexpanded, fun r => by rw [if_pos hexpanded]; rfl⟩
  refine .inr ?_
  simp only [if_neg hexpanded]
  by_cases hdisabled : a.name = "disabled"
  · exact .inl ⟨hdisabled, fun r => by rw [if_pos hdisabled]; rfl⟩
  refine .inr ?_
  simp only [if_neg hdisabled]
  by_cases hlevel : a.name = "level"
  · exact .inl ⟨hlevel, fun r => by rw [if_pos hlevel]⟩
  · exact .inr fun r => by rw [if_neg hlevel]

theorem Chain.addCondition_comm (r : RoleElement) (a b : Attribute) (h : a.name ≠ b.name) :
    (addCondition (addCondition r a).value b).value =
      (addCondition (addCondition r b).value a).value := by
  rcases addCondition_cases a with ⟨ha, ea⟩ | ⟨ha, ea⟩ | ⟨ha, ea⟩ | ⟨ha, ea⟩ | ⟨ha, ea⟩ | ⟨ha, ea⟩ |
    ⟨ha, ea⟩ | ⟨ha, ea⟩ | ea <;>
  rcases addCondition_cases b with ⟨hb, eb⟩ | ⟨hb, eb⟩ | ⟨hb, eb⟩ | ⟨hb, eb⟩ | ⟨hb, eb⟩ | ⟨hb, eb⟩ |
    ⟨hb, eb⟩ | ⟨hb, eb⟩ | eb <;>
  first
    | (simp only [ea, eb]; done)
    | exact absurd (ha.trans hb.symm) h

/-! ## The conditions of a role -/

namespace RoleQuery

open Chain

/-- The step of the fold over conditions. -/
def step (r : RoleElement) (a : Attribute) : RoleElement := (addCondition r a).value

theorem isWord_stateWord (s : AriaState) : Attribute.IsWord s.word := by
  cases s <;> exact .of_all (by decide)

theorem isWord_boolWord (b : Bool) : Attribute.IsWord (boolWord b) := by
  cases b <;> exact .of_all (by decide)

theorem isWord_ofNat (n : Nat) : Attribute.IsWord (Text.ofNat n) :=
  ⟨Text.ofNat_ne_nil n, fun c hc => by
    rw [Char.isAlphanum, Text.isDigit_of_mem_ofNat hc, Bool.or_true]⟩

theorem toLevel?_levelCondition (n : UInt32) : (levelCondition n).value.toLevel? = some n := by
  have hword := isWord_ofNat n.toNat
  obtain ⟨c, r, hc, hdigit⟩ := Text.ofNat_eq_cons n.toNat
  have hvalue : (levelCondition n).value = .text (Text.ofNat n.toNat) := by
    have hne : ∀ w : Text, (∀ d s, w = d :: s → d.isDigit = false) → Text.ofNat n.toNat ≠ w := by
      rintro w hw heq
      simp [hw c r (heq ▸ hc)] at hdigit
    rw [levelCondition, Attribute.ofWord, Attribute.wordValue, if_neg, if_neg]
    · exact hne _ (by rintro d s ⟨⟩; rfl)
    · exact hne _ (by rintro d s ⟨⟩; rfl)
  rw [hvalue, AttributeValue.toLevel?, Text.trim_trimmed _ hword.isTrimmed, Text.toUnsigned?_ofNat,
    Option.bind_some, if_pos (UInt32.toNat_lt n), UInt32.ofNat_toNat]

theorem addCondition_name (r : RoleElement) (w : Wording) :
    addCondition r (nameCondition w) = .quiet { r with name := some w.matcher } := by
  rw [addCondition, if_pos (by rfl), nameCondition, attributeMatcher?_attribute]

theorem addCondition_checked (r : RoleElement) (s : AriaState) :
    addCondition r (stateCondition "checked" s) = .quiet { r with checked := some s } := by
  cases s <;> rfl

theorem addCondition_pressed (r : RoleElement) (s : AriaState) :
    addCondition r (stateCondition "pressed" s) = .quiet { r with pressed := some s } := by
  cases s <;> rfl

theorem addCondition_selected (r : RoleElement) (s : AriaState) :
    addCondition r (stateCondition "selected" s) = .quiet { r with selected := some s } := by
  cases s <;> rfl

theorem addCondition_expanded (r : RoleElement) (s : AriaState) :
    addCondition r (stateCondition "expanded" s) = .quiet { r with expanded := some s } := by
  cases s <;> rfl

theorem addCondition_disabled (r : RoleElement) (s : AriaState) :
    addCondition r (stateCondition "disabled" s) = .quiet { r with disabled := some s } := by
  cases s <;> rfl

theorem addCondition_hidden (r : RoleElement) (b : Bool) :
    addCondition r (hiddenCondition b) = .quiet { r with includeHidden := some b } := by
  cases b <;> rfl

theorem addCondition_level (r : RoleElement) (n : UInt32) :
    addCondition r (levelCondition n) = .quiet { r with level := some n } := by
  have hname : (levelCondition n).name = "level" := rfl
  rw [addCondition, hname, if_neg (by decide), if_neg (by decide), if_neg (by decide),
    if_neg (by decide), if_neg (by decide), if_neg (by decide), if_neg (by decide), if_pos (by rfl)]
  simp only [toLevel?_levelCondition]
  rfl

theorem addCondition_quiet (q : RoleQuery) (a : Attribute) (ha : a ∈ q.conditions)
    (r : RoleElement) : (addCondition r a).warnings = [] := by
  simp only [conditions, listed, List.mem_append, Option.mem_toList,
    Option.map_eq_some_iff] at ha
  rcases ha with ⟨w, -, rfl⟩ | ⟨s, -, rfl⟩ | ⟨s, -, rfl⟩ | ⟨s, -, rfl⟩ | ⟨s, -, rfl⟩ | ⟨s, -, rfl⟩ |
    ⟨b, -, rfl⟩ | ⟨n, -, rfl⟩
  · rw [addCondition_name]; rfl
  · rw [addCondition_checked]; rfl
  · rw [addCondition_pressed]; rfl
  · rw [addCondition_selected]; rfl
  · rw [addCondition_expanded]; rfl
  · rw [addCondition_disabled]; rfl
  · rw [addCondition_hidden]; rfl
  · rw [addCondition_level]; rfl

theorem conditions_nodup (q : RoleQuery) : (q.conditions.map Attribute.name).Nodup := by
  have hsub : (q.conditions.map Attribute.name).Sublist
      (["name".toList] ++ (["checked".toList] ++ (["pressed".toList] ++ (["selected".toList] ++
        (["expanded".toList] ++ (["disabled".toList] ++ (["include-hidden".toList] ++
        ["level".toList]))))))) := by
    simp only [conditions, List.map_append]
    refine .append (sublist_listed _ _ _ (by intro _; rfl) _) ?_
    refine .append (sublist_listed _ _ _ (by intro _; rfl) _) ?_
    refine .append (sublist_listed _ _ _ (by intro _; rfl) _) ?_
    refine .append (sublist_listed _ _ _ (by intro _; rfl) _) ?_
    refine .append (sublist_listed _ _ _ (by intro _; rfl) _) ?_
    refine .append (sublist_listed _ _ _ (by intro _; rfl) _) ?_
    refine .append (sublist_listed _ _ _ (by intro _; rfl) _) ?_
    exact sublist_listed _ _ _ (by intro _; rfl) _
  exact hsub.nodup (by decide)

theorem foldl_conditions (q : RoleQuery) :
    q.conditions.foldl step (.ofRole q.role) = q.element := by
  simp only [conditions, List.foldl_append]
  rw [foldl_listed step _ (fun r o => { r with name := (o.map Wording.matcher).or r.name })
      (by intro c; rfl) _ (by intro c a _; rw [step, addCondition_name]; rfl),
    foldl_listed step (stateCondition "checked") (fun r o => { r with checked := o.or r.checked })
      (by intro c; rfl) _ (by intro c a _; rw [step, addCondition_checked]; rfl),
    foldl_listed step (stateCondition "pressed") (fun r o => { r with pressed := o.or r.pressed })
      (by intro c; rfl) _ (by intro c a _; rw [step, addCondition_pressed]; rfl),
    foldl_listed step (stateCondition "selected")
      (fun r o => { r with selected := o.or r.selected })
      (by intro c; rfl) _ (by intro c a _; rw [step, addCondition_selected]; rfl),
    foldl_listed step (stateCondition "expanded")
      (fun r o => { r with expanded := o.or r.expanded })
      (by intro c; rfl) _ (by intro c a _; rw [step, addCondition_expanded]; rfl),
    foldl_listed step (stateCondition "disabled")
      (fun r o => { r with disabled := o.or r.disabled })
      (by intro c; rfl) _ (by intro c a _; rw [step, addCondition_disabled]; rfl),
    foldl_listed step _ (fun r o => { r with includeHidden := o.or r.includeHidden })
      (by intro c; rfl) _ (by intro c a _; rw [step, addCondition_hidden]; rfl),
    foldl_listed step _ (fun r o => { r with level := o.or r.level })
      (by intro c; rfl) _ (by intro c a _; rw [step, addCondition_level]; rfl)]
  simp only [RoleElement.ofRole, Option.or_none, element]

/-- In whatever order the conditions stand, they say what the query asks for. -/
theorem addConditions_perm (q : RoleQuery) (as : List Attribute) (h : as.Perm q.conditions) :
    addConditions (.ofRole q.role) as = .quiet q.element := by
  have hquiet : ∀ a ∈ as, ∀ r, (addCondition r a).warnings = [] := fun a ha r =>
    addCondition_quiet q a (h.mem_iff.mp ha) r
  rw [addConditions_quiet _ _ hquiet, ← foldl_conditions]
  congr 1
  apply h.foldl_eq'
  intro a ha b hb r
  by_cases hname : a.name = b.name
  · rw [List.inj_on_of_nodup_map q.conditions_nodup (h.mem_iff.mp ha) (h.mem_iff.mp hb) hname]
  · exact addCondition_comm r a b hname

theorem conditions_written (q : RoleQuery) (a : Attribute) (ha : a ∈ q.conditions) :
    a.IsWritten := by
  simp only [conditions, listed, List.mem_append, Option.mem_toList,
    Option.map_eq_some_iff] at ha
  rcases ha with ⟨w, -, rfl⟩ | ⟨s, -, rfl⟩ | ⟨s, -, rfl⟩ | ⟨s, -, rfl⟩ | ⟨s, -, rfl⟩ | ⟨s, -, rfl⟩ |
    ⟨b, -, rfl⟩ | ⟨n, -, rfl⟩
  · exact .quoted _ _ _ (.of_all (by decide))
  · exact .word _ _ (.of_all (by decide)) (isWord_stateWord s)
  · exact .word _ _ (.of_all (by decide)) (isWord_stateWord s)
  · exact .word _ _ (.of_all (by decide)) (isWord_stateWord s)
  · exact .word _ _ (.of_all (by decide)) (isWord_stateWord s)
  · exact .word _ _ (.of_all (by decide)) (isWord_stateWord s)
  · exact .word _ _ (.of_all (by decide)) (isWord_boolWord b)
  · exact .word _ _ (.of_all (by decide)) (isWord_ofNat _)

end RoleQuery

/-! ## The element -/

theorem isWritten_attribute (name : Text) (w : Wording) (h : Attribute.IsName name) :
    (w.attribute name).IsWritten := .quoted _ _ _ h

theorem attributeBody_one (a : Attribute) (h : a.IsWritten) :
    Chain.attributeBody a.written = .quiet (some ⟨[], [a]⟩) := by
  have hread := Attribute.read_body [] [a] (by simp) (by simpa using h) (.inr (by simp))
  rw [List.nil_append, List.flatMap_singleton] at hread
  rw [Chain.attributeBody, hread]

theorem attrElement_attribute (name : Text) (w : Wording) (h : Attribute.IsName name) (e : Element)
    (he : Chain.attributeElement? name w.matcher = some e) :
    Chain.attrElement (w.attribute name).written = .quiet (some e) := by
  rw [Chain.attrElement, attributeBody_one _ (isWritten_attribute name w h)]
  simp only [Noted.andThen, Noted.quiet, Option.bind_some, List.head?_cons, List.nil_append]
  rw [attributeMatcher?_attribute]
  have hname : (w.attribute name).name = name := rfl
  simp only [hname, he]

theorem roleElement_conditions (q : RoleQuery) (as : List Attribute) (h : as.Perm q.conditions) :
    Chain.roleElement (q.role ++ as.flatMap Attribute.written) =
      .quiet (some (.role q.element)) := by
  have hread := Attribute.read_body q.role as q.isName.chars
    (fun a ha => q.conditions_written a (h.mem_iff.mp ha)) (.inl q.isName.ne_nil)
  rw [Chain.roleElement, Chain.attributeBody, hread]
  simp only [Noted.andThen, Noted.quiet, List.nil_append]
  rw [q.addConditions_perm as h]
  rfl

theorem element_part (s : Spelling) (t : Target) :
    Chain.element (t.part s) = .quiet (some t.element) := by
  cases t with
  | role q => exact roleElement_conditions q _ (s.conditions_perm _)
  | testId id =>
    change Chain.testIdElement _ = _
    rw [Chain.testIdElement, attributeBody_one _ (.quoted _ _ _ (.of_all (by decide)))]
    rfl
  | text w => exact congrArg (fun m => Noted.quiet (some (Element.text m))) w.ofSpecifier_written
  | label w => exact congrArg (fun m => Noted.quiet (some (Element.label m))) w.ofSpecifier_written
  | placeholder w =>
    rw [Target.part]
    split
    · exact attrElement_attribute _ w (.of_all (by decide)) _ rfl
    · exact congrArg (fun m => Noted.quiet (some (Element.placeholder m))) w.ofSpecifier_written
  | alt w => exact attrElement_attribute _ w (.of_all (by decide)) _ rfl
  | title w => exact attrElement_attribute _ w (.of_all (by decide)) _ rfl

end Scenarist

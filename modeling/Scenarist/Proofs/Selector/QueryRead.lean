import Scenarist.Proofs.Selector.Base
import Scenarist.Proofs.Selector.Conditions

/-! # Queries read back

The selector that is resolved from the text of a query is the one that the query means, whatever
texts it holds, however deep its filters nest, and however the writer spells it.
-/

namespace Scenarist

namespace Query

open Chain

/-! ## One filter -/

theorem narrow_hasText (w : Narrowing) (m : Wording) (i : Noted (Option Selector)) :
    narrow w (textPart "internal:has-text" m) i =
      .quiet { w with filters := { w.filters with hasText := some m.matcher } } := by
  rw [← m.ofSpecifier_written]
  rfl

theorem narrow_hasNotText (w : Narrowing) (m : Wording) (i : Noted (Option Selector)) :
    narrow w (textPart "internal:has-not-text" m) i =
      .quiet { w with filters := { w.filters with hasNotText := some m.matcher } } := by
  rw [← m.ofSpecifier_written]
  rfl

theorem narrow_visible (w : Narrowing) (b : Bool) (i : Noted (Option Selector)) :
    narrow w (visiblePart b) i =
      .quiet { w with filters := { w.filters with visible := some b } } := by
  cases b <;> rfl

theorem narrow_has (w : Narrowing) (c : Chain) (i : Noted (Option Selector)) :
    narrow w (innerPart "internal:has" c) i =
      i.map fun s => { w with filters := { w.filters with has := s } } := rfl

theorem narrow_hasNot (w : Narrowing) (c : Chain) (i : Noted (Option Selector)) :
    narrow w (innerPart "internal:has-not" c) i =
      i.map fun s => { w with filters := { w.filters with hasNot := s } } := rfl

theorem isTrimmed_ofInt (n : Int) : Text.IsTrimmed (Text.ofInt n) := by
  apply Text.isTrimmed_of_forall
  · cases n with
    | ofNat n => exact Text.ofNat_ne_nil n
    | negSucc n => exact List.cons_ne_nil _ _
  · intro c hc
    cases n with
    | ofNat n => exact Text.isBlank_digit c (Text.isDigit_of_mem_ofNat hc)
    | negSucc n =>
      rcases List.mem_cons.mp hc with rfl | hc
      · rfl
      · exact Text.isBlank_digit c (Text.isDigit_of_mem_ofNat hc)

theorem place?_ofInt (n : Int32) : place? (Text.ofInt n.toInt) = some n := by
  have hlow := n.le_toInt
  have hhigh := n.toInt_lt
  rw [place?, Text.trim_trimmed _ (isTrimmed_ofInt _), Text.toInt?_ofInt, Option.bind_some,
    if_pos ⟨by omega, by omega⟩, Int32.ofInt_toInt]

theorem narrow_nth (w : Narrowing) (n : Int32) (i : Noted (Option Selector)) :
    narrow w (nthPart n) i = .quiet { w with nth := some n } := by
  have hengine : (nthPart n).engine = "nth" := rfl
  have hsource : (nthPart n).source = Text.ofInt n.toInt := rfl
  rw [narrow, hengine, hsource, if_neg (by decide), if_neg (by decide), if_neg (by decide),
    if_neg (by decide), if_neg (by decide), if_pos (by rfl), place?_ofInt]

/-! ## All filters -/

theorem innerChain?_eq (s : Spelling) (o : Option Query) : innerChain? s o = o.map (chain s) := by
  cases o <;> rfl

theorem inner?_eq (o : Option Query) : inner? o = o.map toSelector := by
  cases o <;> rfl

/-- An inner chain is understood as its query, whatever text stands for it. -/
def IsUnderstood (s : Spelling) (q : Query) : Prop :=
  ∀ raw, (q.chain s).toSelector raw = .quiet q.toSelector

theorem innerSelector_innerPart {s : Spelling} {q : Query} (h : q.IsUnderstood s) (name : Text) :
    innerSelector (innerPart name (q.chain s)) = .quiet (some q.toSelector) := by
  rw [innerPart, innerSelector, h]
  rfl

variable (s : Spelling) (hasText hasNotText : Option Wording) (visible : Option Bool)
  (has hasNot : Option Query) (nth : Option Int32)

/-- The parts behind the element. -/
def filters : List Part :=
  filterParts hasText hasNotText visible (innerChain? s has) (innerChain? s hasNot) nth

theorem mem_filters (p : Part) (hp : p ∈ filters s hasText hasNotText visible has hasNot nth) :
    (∃ m, p = textPart "internal:has-text" m) ∨ (∃ m, p = textPart "internal:has-not-text" m) ∨
      (∃ b, p = visiblePart b) ∨ (∃ q ∈ has, p = innerPart "internal:has" (q.chain s)) ∨
      (∃ q ∈ hasNot, p = innerPart "internal:has-not" (q.chain s)) ∨ ∃ n, p = nthPart n := by
  simp only [filters, filterParts, listed, innerChain?_eq, List.mem_append, Option.mem_toList,
    Option.map_eq_some_iff, exists_exists_and_eq_and] at hp
  rcases hp with ⟨m, -, rfl⟩ | ⟨m, -, rfl⟩ | ⟨b, -, rfl⟩ | ⟨q, hq, rfl⟩ | ⟨q, hq, rfl⟩ | ⟨n, -, rfl⟩
  · exact .inl ⟨m, rfl⟩
  · exact .inr (.inl ⟨m, rfl⟩)
  · exact .inr (.inr (.inl ⟨b, rfl⟩))
  · exact .inr (.inr (.inr (.inl ⟨q, hq, rfl⟩)))
  · exact .inr (.inr (.inr (.inr (.inl ⟨q, hq, rfl⟩))))
  · exact .inr (.inr (.inr (.inr (.inr ⟨n, rfl⟩))))

theorem filters_nodup :
    ((filters s hasText hasNotText visible has hasNot nth).map Part.engine).Nodup := by
  have hsub : ((filters s hasText hasNotText visible has hasNot nth).map Part.engine).Sublist
      (["has-text".toList] ++ (["has-not-text".toList] ++ (["visible".toList] ++ (["has".toList] ++
        (["has-not".toList] ++ ["nth".toList]))))) := by
    simp only [filters, filterParts, List.map_append]
    refine .append (sublist_listed _ _ _ (by intro _; rfl) _) ?_
    refine .append (sublist_listed _ _ _ (by intro _; rfl) _) ?_
    refine .append (sublist_listed _ _ _ (by intro _; rfl) _) ?_
    refine .append (sublist_listed _ _ _ (by intro _; rfl) _) ?_
    refine .append (sublist_listed _ _ _ (by intro _; rfl) _) ?_
    exact sublist_listed _ _ _ (by intro _; rfl) _
  exact hsub.nodup (by decide)

theorem filters_not_base (p : Part)
    (hp : p ∈ filters s hasText hasNotText visible has hasNot nth) : canBeBase p = false := by
  rcases mem_filters s hasText hasNotText visible has hasNot nth p hp with ⟨m, rfl⟩ | ⟨m, rfl⟩ |
    ⟨b, rfl⟩ | ⟨q, -, rfl⟩ | ⟨q, -, rfl⟩ | ⟨n, rfl⟩ <;> rfl

variable {has hasNot} (hhas : ∀ q ∈ has, q.IsUnderstood s)
    (hhasNot : ∀ q ∈ hasNot, q.IsUnderstood s)

include hhas hhasNot

theorem narrow_filters_quiet (p : Part)
    (hp : p ∈ filters s hasText hasNotText visible has hasNot nth) (w : Narrowing) :
    (narrow w p (innerSelector p)).warnings = [] := by
  rcases mem_filters s hasText hasNotText visible has hasNot nth p hp with ⟨m, rfl⟩ | ⟨m, rfl⟩ |
    ⟨b, rfl⟩ | ⟨q, hq, rfl⟩ | ⟨q, hq, rfl⟩ | ⟨n, rfl⟩
  · rw [narrow_hasText]; rfl
  · rw [narrow_hasNotText]; rfl
  · rw [narrow_visible]; rfl
  · rw [narrow_has, innerSelector_innerPart (hhas q hq)]; rfl
  · rw [narrow_hasNot, innerSelector_innerPart (hhasNot q hq)]; rfl
  · rw [narrow_nth]; rfl

theorem foldl_filters :
    (filters s hasText hasNotText visible has hasNot nth).foldl step .none =
      ⟨⟨hasText.map Wording.matcher, hasNotText.map Wording.matcher, visible, inner? has,
        inner? hasNot⟩, nth⟩ := by
  have listed_map : ∀ name (o : Option Query), listed (innerPart name) (innerChain? s o) =
      listed (fun q => innerPart name (q.chain s)) o := by
    intro name o
    cases o <;> rfl
  simp only [filters, filterParts, listed_map, List.foldl_append]
  rw [foldl_listed step (textPart "internal:has-text") (fun w o => { w with filters :=
        { w.filters with hasText := (o.map Wording.matcher).or w.filters.hasText } })
      (by rintro ⟨⟨⟩, _⟩; rfl) _ (by intro w m _; rw [step, narrow_hasText]; rfl),
    foldl_listed step (textPart "internal:has-not-text") (fun w o => { w with filters :=
        { w.filters with hasNotText := (o.map Wording.matcher).or w.filters.hasNotText } })
      (by rintro ⟨⟨⟩, _⟩; rfl) _ (by intro w m _; rw [step, narrow_hasNotText]; rfl),
    foldl_listed step _ (fun w o => { w with filters :=
        { w.filters with visible := o.or w.filters.visible } })
      (by rintro ⟨⟨⟩, _⟩; rfl) _ (by intro w b _; rw [step, narrow_visible]; rfl),
    foldl_listed step (fun q => innerPart "internal:has" (chain s q))
      (fun w o => { w with filters :=
        { w.filters with has := (o.map toSelector).or w.filters.has } })
      (by rintro ⟨⟨⟩, _⟩; rfl) _
      (by intro w q hq; rw [step, narrow_has, innerSelector_innerPart (hhas q hq)]; rfl),
    foldl_listed step (fun q => innerPart "internal:has-not" (chain s q))
      (fun w o => { w with filters :=
        { w.filters with hasNot := (o.map toSelector).or w.filters.hasNot } })
      (by rintro ⟨⟨⟩, _⟩; rfl) _
      (by intro w q hq; rw [step, narrow_hasNot, innerSelector_innerPart (hhasNot q hq)]; rfl),
    foldl_listed step _ (fun w o => { w with nth := o.or w.nth })
      (by rintro ⟨⟨⟩, _⟩; rfl) _ (by intro w n _; rw [step, narrow_nth]; rfl)]
  simp only [Narrowing.none, Filters.none, Option.or_none, inner?_eq]

theorem narrowAll_perm (ps : List Part)
    (h : ps.Perm (filters s hasText hasNotText visible has hasNot nth)) :
    narrowAll 0 .none ps = .quiet ⟨⟨hasText.map Wording.matcher, hasNotText.map Wording.matcher,
      visible, inner? has, inner? hasNot⟩, nth⟩ := by
  have hquiet : ∀ p ∈ ps, ∀ w, (narrow w p (innerSelector p)).warnings = [] := fun p hp w =>
    narrow_filters_quiet s hasText hasNotText visible nth hhas hhasNot p (h.mem_iff.mp hp) w
  rw [narrowAll_quiet _ _ hquiet, ← foldl_filters s hasText hasNotText visible nth hhas hhasNot]
  congr 1
  apply h.foldl_eq'
  intro p hp q hq w
  by_cases hengine : p.engine = q.engine
  · have hnodup := filters_nodup s hasText hasNotText visible has hasNot nth
    rw [List.inj_on_of_nodup_map hnodup (h.mem_iff.mp hp) (h.mem_iff.mp hq) hengine]
  · exact narrow_comm w p q _ _ hengine

omit hhas hhasNot

/-! ## Whole queries -/

theorem induct {P : Query → Prop}
    (h : ∀ q, (∀ i ∈ q.has, P i) → (∀ i ∈ q.hasNot, P i) → P q) (q : Query) : P q := by
  refine @Query.rec P (fun o => ∀ i ∈ o, P i) ?_ ?_ ?_ q
  · intro target hasText hasNotText visible has hasNot nth hhas hhasNot
    exact h _ hhas hhasNot
  · simp
  · rintro q hq i ⟨⟩
    exact hq

theorem canBeBase_part (t : Target) : canBeBase (t.part s) = true := by
  cases t with
  | placeholder w =>
    rw [Target.part]
    split <;> rfl
  | _ => rfl

theorem isUnderstood (q : Query) : q.IsUnderstood s := by
  induction q using Query.induct with
  | h q hhas hhasNot =>
    obtain ⟨target, hasText, hasNotText, visible, has, hasNot, nth⟩ := q
    intro raw
    have hperm := s.filters_perm (filters s hasText hasNotText visible has hasNot nth)
    have hrest := narrowAll_perm s hasText hasNotText visible nth hhas hhasNot _ hperm
    have hlast : lastBase? (s.filters (filters s hasText hasNotText visible has hasNot nth)) =
        none :=
      lastBase?_eq_none_iff.mpr fun p hp =>
        narrows_iff.mpr (filters_not_base s _ _ _ _ _ _ p (hperm.mem_iff.mp hp))
    have hbase : Chain.base? ⟨target.part s :: s.filters (filters s hasText hasNotText visible has
        hasNot nth), none⟩ = some 0 := by
      rw [Chain.base?, lastBase?, hlast]
      simp [canBeBase_part]
    rw [Query.chain, Chain.toSelector]
    dsimp only
    rw [← filters, hbase]
    dsimp only
    rw [List.getElem?_cons_zero]
    dsimp only
    rw [element_part]
    dsimp only [Noted.quiet]
    rw [narrowAll, hrest]
    rfl

/-! ## Texts of queries -/

theorem isPlainPart_wording {name : Text} (h : IsPlainName name) (w : Wording) :
    IsPlainPart name w.written := by
  refine ⟨h, ⟨⟨'"', _, Json.quote_append w.text w.mark.letters, rfl⟩, ?_⟩,
    (closed_quote w.text).append (Attribute.closed_letters w.mark)⟩
  obtain ⟨t, mark⟩ := w
  cases mark with
  | plain => exact ⟨'"' :: t.flatMap Json.escapeChar, '"', List.append_nil _, rfl⟩
  | exact => exact ⟨Json.quote t, 's', rfl, rfl⟩
  | ignoringCase => exact ⟨Json.quote t, 'i', rfl, rfl⟩

theorem isPlainPart_attributes {name : Text} (h : IsPlainName name) (role : Text)
    (as : List Attribute) (hrole : ∀ c ∈ role, Attribute.isNameChar c = true)
    (has : ∀ a ∈ as, a.IsWritten) (hne : role ≠ [] ∨ as ≠ []) :
    IsPlainPart name (role ++ as.flatMap Attribute.written) :=
  ⟨h, Attribute.isTrimmed_body role as hrole hne, Attribute.closed_body role as hrole has⟩

theorem isPlainPart_attribute {name : Text} (h : IsPlainName name) (a : Attribute)
    (ha : a.IsWritten) : IsPlainPart name a.written := by
  have := isPlainPart_attributes h [] [a] (by simp) (by simpa using ha) (.inr (by simp))
  simpa using this

theorem isPlainName_of (c : Char) (r : Text) (h : isEngineName (c :: r) = true) (hstar : c ≠ '*')
    (ht : c ≠ 't') : IsPlainName (c :: r) := ⟨h, c, r, rfl, hstar, ht⟩

theorem legiblePart_part (t : Target) : LegiblePart (t.part s) := by
  have hattr : IsPlainName "internal:attr".toList :=
    isPlainName_of _ _ (by decide) (by decide) (by decide)
  cases t with
  | role q =>
    refine .plain _ _ (isPlainPart_attributes (isPlainName_of _ _ (by decide) (by decide)
      (by decide)) _ _ q.isName.chars ?_ (.inl q.isName.ne_nil)) (by decide)
    exact fun a ha => q.conditions_written a ((s.conditions_perm _).mem_iff.mp ha)
  | testId id =>
    exact .plain _ _ (isPlainPart_attribute (isPlainName_of _ _ (by decide) (by decide)
      (by decide)) _ (.quoted _ _ _ (.of_all (by decide)))) (by decide)
  | text w =>
    exact .plain _ _ (isPlainPart_wording (isPlainName_of _ _ (by decide) (by decide)
      (by decide)) w) (by decide)
  | label w =>
    exact .plain _ _ (isPlainPart_wording (isPlainName_of _ _ (by decide) (by decide)
      (by decide)) w) (by decide)
  | placeholder w =>
    rw [Target.part]
    split
    · exact .plain _ _ (isPlainPart_attribute hattr _
        (isWritten_attribute _ w (.of_all (by decide)))) (by decide)
    · exact .plain _ _ (isPlainPart_wording (isPlainName_of _ _ (by decide) (by decide)
        (by decide)) w) (by decide)
  | alt w =>
    exact .plain _ _ (isPlainPart_attribute hattr _
      (isWritten_attribute _ w (.of_all (by decide)))) (by decide)
  | title w =>
    exact .plain _ _ (isPlainPart_attribute hattr _
      (isWritten_attribute _ w (.of_all (by decide)))) (by decide)

theorem closed_ofInt (n : Int) : Closed (Text.ofInt n) := by
  have hdigits : ∀ n, Closed (Text.ofNat n) := fun n =>
    Attribute.closed_alphanum _ (RoleQuery.isWord_ofNat n).chars
  cases n with
  | ofNat n => exact hdigits n
  | negSucc n => exact .inert '-' _ rfl (hdigits _)

theorem legiblePart_filters (hhas : ∀ q ∈ has, Legible (q.chain s))
    (hhasNot : ∀ q ∈ hasNot, Legible (q.chain s)) (p : Part)
    (hp : p ∈ filters s hasText hasNotText visible has hasNot nth) : LegiblePart p := by
  rcases mem_filters s hasText hasNotText visible has hasNot nth p hp with ⟨m, rfl⟩ | ⟨m, rfl⟩ |
    ⟨b, rfl⟩ | ⟨q, hq, rfl⟩ | ⟨q, hq, rfl⟩ | ⟨n, rfl⟩
  · exact .plain _ _ (isPlainPart_wording (isPlainName_of _ _ (by decide) (by decide)
      (by decide)) m) (by decide)
  · exact .plain _ _ (isPlainPart_wording (isPlainName_of _ _ (by decide) (by decide)
      (by decide)) m) (by decide)
  · have hword := RoleQuery.isWord_boolWord b
    exact .plain _ _ ⟨isPlainName_of _ _ (by decide) (by decide) (by decide), hword.isTrimmed,
      Attribute.closed_alphanum _ hword.chars⟩ (by decide)
  · exact .nested _ _ (isPlainName_of _ _ (by decide) (by decide) (by decide)) (by decide)
      (hhas q hq)
  · exact .nested _ _ (isPlainName_of _ _ (by decide) (by decide) (by decide)) (by decide)
      (hhasNot q hq)
  · exact .plain _ _ ⟨isPlainName_of _ _ (by decide) (by decide) (by decide), isTrimmed_ofInt _,
      closed_ofInt _⟩ (by decide)

theorem legible_chain (q : Query) : Legible (q.chain s) := by
  induction q using Query.induct with
  | h q hhas hhasNot =>
    obtain ⟨target, hasText, hasNotText, visible, has, hasNot, nth⟩ := q
    rw [Query.chain]
    refine .intro _ _ fun p hp => ?_
    rcases List.mem_cons.mp hp with rfl | hp
    · exact legiblePart_part s target
    · exact legiblePart_filters s hasText hasNotText visible nth hhas hhasNot p
        ((s.filters_perm _).mem_iff.mp hp)

/-- From the text of a query the selector is resolved that the query means, without a warning. -/
theorem resolve_written (q : Query) :
    Selector.ofRecorded? (q.written s) = ⟨some q.toSelector, []⟩ := by
  rw [Selector.ofRecorded?, Query.written, read_written _ (legible_chain s q)]
  dsimp only
  rw [isUnderstood s q]
  rfl

example : Query.written ⟨id, fun _ => .rfl, id, fun _ => .rfl, true⟩
    ⟨.alt ⟨"\">", .exact⟩, none, none, none,
      some ⟨.testId "a", none, none, none, none, none, none⟩, none, some 2⟩ =
    String.toList ("internal:attr=[alt=\"\\\">\"s] >> " ++
      "internal:has=\"internal:testid=[data-testid=\\\"a\\\"s]\" >> nth=2") := by
  rfl

end Query

end Scenarist

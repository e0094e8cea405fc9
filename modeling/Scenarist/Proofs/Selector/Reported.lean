import Scenarist.Proofs.Selector.Filters

/-! # Elements that cannot be expressed

Where the base of a chain cannot be expressed, the whole chain becomes a query. A warning tells why,
but for one kind of base: a body that should name an attribute and has none. The same holds for
every chain that a filter quotes.
-/

namespace Scenarist

/-- The body should name an attribute and has none. -/
def Part.IsBare (p : Part) : Prop :=
  p.engine = "attr" ∧ ∃ body name, p.text? = some body ∧
    AttributeBody.read true body = .ok ⟨name, []⟩

namespace Chain

/-! ## Bodies of attributes -/

theorem attributeBody_cases (body : Text) :
    (∃ b, AttributeBody.read true body = .ok b ∧ attributeBody body = .quiet (some b)) ∨
      ∃ fault, AttributeBody.read true body = .error fault ∧
        attributeBody body = ⟨none, [.unreadableBody body fault]⟩ := by
  unfold attributeBody
  cases AttributeBody.read true body with
  | ok b => exact .inl ⟨b, rfl, rfl⟩
  | error fault => exact .inr ⟨fault, rfl, rfl⟩

theorem testIdElement_reported {body : Text} (h : (testIdElement body).value = none) :
    (testIdElement body).warnings ≠ [] := by
  unfold testIdElement at h ⊢
  rcases attributeBody_cases body with ⟨b, -, heq⟩ | ⟨fault, -, heq⟩
  · simp only [heq, Noted.andThen, Noted.quiet] at h ⊢
    split at h
    · cases h
    · simp
  · simp [heq, Noted.andThen]

theorem roleElement_reported {body : Text} (h : (roleElement body).value = none) :
    (roleElement body).warnings ≠ [] := by
  unfold roleElement at h ⊢
  rcases attributeBody_cases body with ⟨b, -, heq⟩ | ⟨fault, -, heq⟩
  · rw [heq] at h
    cases h
  · simp [heq, Noted.andThen]

theorem attrElement_silent_iff {body : Text} (h : (attrElement body).value = none) :
    (attrElement body).warnings = [] ↔ ∃ name, AttributeBody.read true body = .ok ⟨name, []⟩ := by
  unfold attrElement at h ⊢
  rcases attributeBody_cases body with ⟨⟨name, attributes⟩, hread, heq⟩ | ⟨fault, hread, heq⟩
  · cases attributes with
    | nil => simp [heq, hread, Noted.andThen, Noted.quiet]
    | cons a attributes =>
      simp only [heq, Noted.andThen, Noted.quiet, Option.bind_some, List.head?_cons] at h ⊢
      split at h
      · simp [hread]
      · split at h
        · cases h
        · simp [hread]
  · simp [heq, hread, Noted.andThen]

/-! ## Bases -/

theorem element_attr {p : Part} {body : Text} (hengine : p.engine = "attr")
    (hbody : p.text? = some body) :
    element p = attrElement body := by
  have hne : ∀ t ∈
      ["testid", "role", "text", "label", "placeholder", "css", "css:light", "xpath"].map
    String.toList, p.engine ≠ t := by
    rw [hengine]
    decide
  unfold element
  simp only [hbody]
  rw [if_neg (hne _ (by decide)), if_neg (hne _ (by decide)), if_neg (hne _ (by decide)),
    if_neg (hne _ (by decide)),
    if_neg (hne _ (by decide)), if_neg (not_or.mpr ⟨hne _ (by decide), hne _ (by decide)⟩),
    if_neg (hne _ (by decide)), if_pos hengine]

theorem element_reported {p : Part} (hengine : p.engine ≠ "attr") :
    (element p).value = none → (element p).warnings ≠ [] := by
  unfold element
  cases p.text? with
  | none => simp
  | some body =>
    dsimp only
    split
    · exact testIdElement_reported
    split
    · exact roleElement_reported
    split
    · rintro ⟨⟩
    split
    · rintro ⟨⟩
    split
    · rintro ⟨⟩
    split
    · rintro ⟨⟩
    split
    · rintro ⟨⟩
    · simp

/-- Why a base cannot be expressed is told, unless it is bare. -/
theorem element_silent_iff {p : Part} (h : (element p).value = none) :
    (element p).warnings = [] ↔ p.IsBare := by
  unfold Part.IsBare
  by_cases hengine : p.engine = "attr"
  · cases hbody : p.text? with
    | none => simp [element, hbody]
    | some body =>
      rw [element_attr hengine hbody] at h ⊢
      simp [attrElement_silent_iff h, hengine]
  · constructor
    · intro hsilent
      exact absurd hsilent (element_reported hengine h)
    · rintro ⟨hattr, -⟩
      exact absurd hattr hengine

/-! ## Chains -/

theorem toSelector_unmapped (raw : Text) {c : Chain} {base : Nat} {part : Part}
    (hbase : c.base? = some base)
    (hpart : c.parts[base]? = some part) (hnone : (element part).value = none) :
    toSelector raw c = ⟨.ofElement (.css c.toText), (element part).warnings⟩ := by
  obtain ⟨parts, capture⟩ := c
  rw [toSelector]
  simp only [hbase, hpart, hnone]

/-- The chains whose selectors are parts of a chain's own: itself, and those that the filters behind
its element quote. -/
inductive Resolves : Chain → Chain → Prop where
  | self (c : Chain) : Resolves c c
  | filter {c d e : Chain} {base : Nat} {part p : Part} {target : Element}
      (hbase : c.base? = some base)
    (hpart : c.parts[base]? = some part) (htarget : (element part).value = some target)
      (hp : p ∈ c.parts.drop (base + 1))
    (hengine : p.engine = "has" ∨ p.engine = "has-not") (hd : p.inner? = some d)
      (h : Resolves d e) : Resolves c e

theorem quoted_within {p : Part} {d : Chain} (hengine : p.engine = "has" ∨ p.engine = "has-not")
    (hd : p.inner? = some d) :
    (toSelector d.toText d).warnings <:+: partWarnings p := by
  have hkind (k : FilterKind) (hk : p.engine = k.engine)
      (hquoted : k.quotedWarnings p = (toSelector d.toText d).warnings) :
      (toSelector d.toText d).warnings <:+: partWarnings p := by
    rw [partWarnings, find?_kind k hk, ← hquoted]
    exact (List.suffix_append _ _).isInfix
  rcases hengine with hhas | hhas
  · exact hkind .has hhas (by rw [FilterKind.quotedWarnings, hd]; rfl)
  · exact hkind .hasNot hhas (by rw [FilterKind.quotedWarnings, hd]; rfl)

theorem partWarnings_within (raw : Text) {c : Chain} {base : Nat} {part p : Part} {target : Element}
    (hbase : c.base? = some base)
    (hpart : c.parts[base]? = some part) (htarget : (element part).value = some target)
    (hp : p ∈ c.parts.drop (base + 1)) :
    partWarnings p <:+: (toSelector raw c).warnings := by
  obtain ⟨before, after, heq⟩ := List.append_of_mem hp
  rw [toSelector_eq raw hbase hpart htarget, heq, List.flatMap_append, List.flatMap_cons]
  refine List.IsInfix.trans ?_ (List.suffix_append _ _).isInfix
  exact ⟨before.flatMap partWarnings, after.flatMap partWarnings, by simp⟩

/-- What is noticed about a chain is noticed about every chain that takes in its selector. -/
theorem Resolves.warnings_within {c d : Chain} (h : c.Resolves d) (raw : Text)
    {warnings : List Warning}
    (hd : ∀ t, (toSelector t d).warnings = warnings) :
      warnings <:+: (toSelector raw c).warnings := by
  induction h generalizing raw with
  | self c => exact hd raw ▸ List.infix_refl _
  | filter hbase hpart htarget hp hengine hinner _ ih =>
    exact ((ih _ hd).trans (quoted_within hengine hinner)).trans
      (partWarnings_within raw hbase hpart htarget hp)

end Chain

namespace Selector

open Chain

/-- Where a base cannot be expressed, in a chain or in one that it takes in, the chain becomes a
query, and the warnings about the base are there. Only a bare base has none. -/
theorem unmapped_reported {raw : Text} {c d : Chain} {base : Nat} {part : Part}
    (hread : Chain.read raw = .ok c)
    (hd : c.Resolves d) (hbase : d.base? = some base) (hpart : d.parts[base]? = some part)
    (hnone : (Chain.element part).value = none) :
    (∀ t, d.toSelector t = ⟨.ofElement (.css d.toText), (Chain.element part).warnings⟩) ∧
      (Chain.element part).warnings <:+: (ofRecorded? raw).warnings ∧
      ((Chain.element part).warnings = [] ↔ part.IsBare) := by
  have hunmapped (t : Text) := toSelector_unmapped t hbase hpart hnone
  refine ⟨hunmapped, ?_, element_silent_iff hnone⟩
  have hof : ofRecorded? raw = (c.toSelector raw).map some := by rw [ofRecorded?, hread]
  rw [hof]
  exact hd.warnings_within raw fun t => by rw [hunmapped t]

/-- A list item that holds something of an engine that is not known. -/
theorem unknown_engine_reported :
    let raw : Text := "ul >> *css=li >> internal:has=\"shadow=root >> nth=0\""
    let d : Chain := ⟨[.plain "shadow" "root", .plain "nth" "0"], none⟩
    let c : Chain :=
      ⟨[.plain "css" "ul", .plain "css" "li",
      .nested "internal:has" "\"shadow=root >> nth=0\"" d none], some 1⟩
    Chain.read raw = .ok c ∧ c.Resolves d ∧ d.base? = some 0 ∧
      (Chain.element (.plain "shadow" "root")).value = none ∧
      d.toSelector d.toText =
        ⟨.ofElement (.css "shadow=root >> nth=0"), [.unsupportedEngine "shadow"]⟩ ∧
      [.unsupportedEngine "shadow"] <:+: (ofRecorded? raw).warnings := by
  intro raw d c
  have hread : Chain.read raw = .ok c := by rfl
  have hitem : c.base? = some 1 := rfl
  have hresolves : c.Resolves d := .filter hitem rfl rfl List.mem_cons_self (.inl rfl) rfl (.self d)
  have hbase : d.base? = some 0 := rfl
  have hnone : (Chain.element (.plain "shadow" "root")).value = none := rfl
  obtain ⟨hquery, hwarned, -⟩ := unmapped_reported hread hresolves hbase rfl hnone
  exact ⟨hread, hresolves, hbase, hnone, hquery _, hwarned⟩

/-- An element with an attribute that has no value becomes a query, and no warning tells it. -/
theorem bare_attribute_silent :
    let raw : Text := "internal:attr=alt"
    let c : Chain := ⟨[.plain "internal:attr" "alt"], none⟩
    Chain.read raw = .ok c ∧ c.base? = some 0 ∧
      (Chain.element (.plain "internal:attr" "alt")).value = none ∧
      (ofRecorded? raw).value = some (.ofElement (.css c.toText)) ∧
        (ofRecorded? raw).warnings.length = 0 := by
  intro raw c
  exact ⟨by rfl, rfl, by rfl, by decide +kernel, by decide +kernel⟩

end Selector

end Scenarist

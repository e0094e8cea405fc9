import Scenarist.Proofs.Attribute.Origin
import Scenarist.Proofs.Pattern.Escaped
import Scenarist.Proofs.Selector.Conditions
import Scenarist.Proofs.Selector.Resolved

/-! # What holds of every recorded selector

A selector of a recorded text names an element and neither a page nor frames. Its filters say
something, and its patterns compile. The same holds of the selectors inside its filters, at any
depth.
-/

namespace Scenarist

/-! ## Matchers -/

/-- The matcher is no pattern, or one that compiles. -/
def TextMatcher.IsCompiled (m : TextMatcher) : Prop :=
  ∀ pattern flags, m = .regex pattern flags → ∃ e, Pattern.compile pattern flags = .ok e

namespace TextMatcher

theorem isCompiled_exactIgnoreCase (t : Text) : (exactIgnoreCase t).IsCompiled := by
  rintro _ _ ⟨⟩
  exact ⟨_, Pattern.compile_whole t⟩

theorem isCompiled_regexLiteral {raw : Text} {m : TextMatcher} (h : regexLiteral? raw = some m) :
    m.IsCompiled := by
  unfold regexLiteral? at h
  split at h
  · obtain ⟨⟨pattern, flags⟩, -, h⟩ := Option.bind_eq_some_iff.mp h
    dsimp only at h
    split at h
    · rename_i hcompiles
      obtain rfl := Option.some.inj h
      rintro _ _ ⟨⟩
      exact isOk_iff.mp (Bool.and_eq_true_iff.mp hcompiles).2
    · cases h
  · cases h

theorem isCompiled_quotedWithCase {raw : Text} {m : TextMatcher}
    (h : quotedWithCase? raw = some m) : m.IsCompiled := by
  unfold quotedWithCase? at h
  split at h
  · obtain ⟨t, -, rfl⟩ := Option.map_eq_some_iff.mp h
    exact nofun
  · obtain ⟨t, -, rfl⟩ := Option.map_eq_some_iff.mp h
    exact isCompiled_exactIgnoreCase t

theorem isCompiled_ofSpecifier (raw : Text) : (ofSpecifier raw).IsCompiled := by
  unfold ofSpecifier
  cases hliteral : regexLiteral? raw with
  | some m => exact isCompiled_regexLiteral hliteral
  | none =>
    cases hcase : quotedWithCase? raw with
    | some m => exact isCompiled_quotedWithCase hcase
    | none => cases quoted? raw <;> exact nofun

end TextMatcher

/-! ## Elements -/

theorem Noted.value_andThen {α β : Type} (a : Noted α) (f : α → Noted β) :
    (a.andThen f).value = (f a.value).value := rfl

/-- The matcher in an element. -/
def Element.matcher? : Element → Option TextMatcher
  | .role r => r.name
  | .text m | .label m | .placeholder m | .alt m | .title m => some m
  | .testId _ | .css _ | .xpath _ => none

def Element.IsCompiled (e : Element) : Prop := ∀ m ∈ e.matcher?, m.IsCompiled

namespace Chain

theorem isCompiled_attributeBody {body : Text} {b : AttributeBody}
    (h : (attributeBody body).value = some b) :
    ∀ a ∈ b.attributes, Attribute.IsCompiled a.value := by
  unfold attributeBody at h
  split at h
  · rename_i hread
    obtain rfl := Option.some.inj h
    exact AttributeBody.isCompiled_read hread
  · cases h

theorem isCompiled_attributeMatcher {a : Attribute} (ha : Attribute.IsCompiled a.value) :
    ∀ m ∈ attributeMatcher? a, m.IsCompiled := by
  intro m hm
  unfold attributeMatcher? at hm
  split at hm
  · rename_i hvalue
    obtain rfl := Option.some.inj hm
    rintro _ _ ⟨⟩
    exact ha _ _ hvalue
  · split at hm
    · split at hm
      · obtain rfl := Option.some.inj hm
        exact TextMatcher.isCompiled_exactIgnoreCase _
      split at hm
      · obtain rfl := Option.some.inj hm
        exact nofun
      · obtain rfl := Option.some.inj hm
        exact nofun
    · obtain rfl := Option.some.inj hm
      exact nofun
  · obtain ⟨t, -, rfl⟩ := Option.map_eq_some_iff.mp hm
    exact nofun

theorem isCompiled_addCondition {r : RoleElement} {a : Attribute} (hr : ∀ m ∈ r.name, m.IsCompiled)
    (ha : Attribute.IsCompiled a.value) : ∀ m ∈ (addCondition r a).value.name, m.IsCompiled := by
  rcases addCondition_cases a
    with ⟨-, e⟩ | ⟨-, e⟩ | ⟨-, e⟩ | ⟨-, e⟩ | ⟨-, e⟩ | ⟨-, e⟩ | ⟨-, e⟩ | ⟨-, e⟩ | e <;> rw [e]
  · exact isCompiled_attributeMatcher ha
  all_goals exact hr

theorem isCompiled_addConditions {r : RoleElement} {as : List Attribute}
    (hr : ∀ m ∈ r.name, m.IsCompiled)
    (has : ∀ a ∈ as, Attribute.IsCompiled a.value) :
      ∀ m ∈ (addConditions r as).value.name, m.IsCompiled := by
  induction as generalizing r with
  | nil => exact hr
  | cons a as ih =>
    obtain ⟨ha, has⟩ := List.forall_mem_cons.mp has
    exact ih (isCompiled_addCondition hr ha) has

theorem isCompiled_roleElement {body : Text} {e : Element} (h : (roleElement body).value = some e) :
    e.IsCompiled := by
  rw [roleElement, Noted.value_andThen] at h
  split at h
  · cases h
  · rename_i b hbody
    obtain rfl := Option.some.inj h
    exact isCompiled_addConditions (by simp [RoleElement.ofRole]) (isCompiled_attributeBody hbody)

theorem matcher?_attributeElement {name : Text} {m : TextMatcher} {e : Element}
    (h : attributeElement? name m = some e) :
    e.matcher? = some m := by
  unfold attributeElement? at h
  split at h
  · cases h; rfl
  split at h
  · cases h; rfl
  split at h
  · cases h; rfl
  · cases h

theorem isCompiled_attrElement {body : Text} {e : Element} (h : (attrElement body).value = some e) :
    e.IsCompiled := by
  rw [attrElement, Noted.value_andThen] at h
  split at h
  · cases h
  rename_i a hfirst
  obtain ⟨b, hbody, hhead⟩ := Option.bind_eq_some_iff.mp hfirst
  have ha := isCompiled_attributeBody hbody a (List.mem_of_head? hhead)
  split at h
  · cases h
  rename_i m hm
  split at h
  · rename_i e' helement
    obtain rfl := Option.some.inj h
    intro m' hm'
    rw [matcher?_attributeElement helement] at hm'
    obtain rfl := Option.some.inj hm'
    exact isCompiled_attributeMatcher ha _ hm
  · cases h

theorem isCompiled_testIdElement {body : Text} {e : Element}
    (h : (testIdElement body).value = some e) : e.IsCompiled := by
  rw [testIdElement, Noted.value_andThen] at h
  cases hbody : (attributeBody body).value with
  | none => simp [hbody, Noted.quiet] at h
  | some b =>
    cases hid : b.attributes.head?.bind (·.value.toText?) with
    | none => simp [hbody, hid] at h
    | some id =>
      obtain rfl : Element.testId id = e := by simpa [hbody, hid, Noted.quiet] using h
      intro m hm
      cases hm

theorem isCompiled_element {p : Part} {e : Element} (h : (element p).value = some e) :
    e.IsCompiled := by
  unfold element at h
  split at h
  · cases h
  rename_i body _
  have hspecifier : ∀ m ∈ some (TextMatcher.ofSpecifier body), m.IsCompiled := by
    rintro _ ⟨⟩
    exact TextMatcher.isCompiled_ofSpecifier body
  dsimp only at h
  split at h
  · exact isCompiled_testIdElement h
  split at h
  · exact isCompiled_roleElement h
  split at h
  · obtain rfl := Option.some.inj h
    exact hspecifier
  split at h
  · obtain rfl := Option.some.inj h
    exact hspecifier
  split at h
  · obtain rfl := Option.some.inj h
    exact hspecifier
  split at h
  · obtain rfl := Option.some.inj h
    exact nofun
  split at h
  · obtain rfl := Option.some.inj h
    exact nofun
  split at h
  · exact isCompiled_attrElement h
  · cases h

end Chain

/-! ## Selectors -/

/-- The texts that the filters themselves ask for. -/
def Filters.IsCompiled (f : Filters) : Prop :=
  (∀ m ∈ f.hasText, m.IsCompiled) ∧ ∀ m ∈ f.hasNotText, m.IsCompiled

namespace Selector

/-- What holds of a selector that was recorded. -/
structure IsFormed (s : Selector) : Prop where
  element : ∃ e, s.element = some e ∧ e.IsCompiled
  page : s.page = none
  framePath : s.framePath = none
  filters : ∀ f ∈ s.filters, f.isEmpty = false ∧ f.IsCompiled

/-- The second selector is the first one, or one inside its filters at any depth. -/
inductive Encloses : Selector → Selector → Prop where
  | refl (s : Selector) : Encloses s s
  | has {s t u : Selector} {f : Filters} (hf : f ∈ s.filters) (ht : t ∈ f.has) (h : Encloses t u) :
      Encloses s u
  | hasNot {s t u : Selector} {f : Filters} (hf : f ∈ s.filters) (ht : t ∈ f.hasNot)
      (h : Encloses t u) : Encloses s u

/-- The selector is formed, and so is every one inside its filters. -/
def IsFormedThroughout (s : Selector) : Prop := ∀ t, s.Encloses t → t.IsFormed

end Selector

/-- Filters with patterns that compile, and of selectors that are formed. -/
structure Filters.IsFormed (f : Filters) : Prop where
  compiled : f.IsCompiled
  has : ∀ s ∈ f.has, s.IsFormedThroughout
  hasNot : ∀ s ∈ f.hasNot, s.IsFormedThroughout

theorem Filters.isFormed_none : Filters.none.IsFormed := ⟨⟨nofun, nofun⟩, nofun, nofun⟩

namespace Selector

theorem isFormed_withFilters {e : Element} {f : Filters} (he : e.IsCompiled) (hf : f.IsFormed)
    (nth : Option Int32) :
    ({ (ofElement e).withFilters f with nth } : Selector).IsFormedThroughout := by
  have hfilters : ∀ g ∈ ((ofElement e).withFilters f).filters, g = f ∧ f.isEmpty = false := by
    intro g hg
    simp only [withFilters, Option.mem_def] at hg
    split at hg
    · exact absurd hg (by simp)
    · rename_i hempty
      exact ⟨(Option.some.inj hg).symm, by simpa using hempty⟩
  intro t ht
  cases ht with
  | refl =>
    refine ⟨⟨e, rfl, he⟩, rfl, rfl, fun g hg => ?_⟩
    obtain ⟨rfl, hempty⟩ := hfilters g hg
    exact ⟨hempty, hf.compiled⟩
  | has hg hs h =>
    obtain ⟨rfl, -⟩ := hfilters _ hg
    exact hf.has _ hs _ h
  | hasNot hg hs h =>
    obtain ⟨rfl, -⟩ := hfilters _ hg
    exact hf.hasNot _ hs _ h

theorem isFormed_ofElement {e : Element} (he : e.IsCompiled) : (ofElement e).IsFormedThroughout :=
  isFormed_withFilters he Filters.isFormed_none none

end Selector

theorem Chain.FilterKind.isFormed_update {w : Narrowing} {inner : Option Selector}
    (hw : w.filters.IsFormed)
    (hinner : ∀ s ∈ inner, s.IsFormedThroughout) (k : FilterKind) (source : Text) :
    (k.update source inner w).filters.IsFormed := by
  obtain ⟨⟨htext, hnotText⟩, hhas, hhasNot⟩ := hw
  have hspecifier : ∀ m ∈ some (TextMatcher.ofSpecifier source), m.IsCompiled := by
    rintro _ ⟨⟩
    exact TextMatcher.isCompiled_ofSpecifier source
  cases k with
  | hasText => exact ⟨⟨hspecifier, hnotText⟩, hhas, hhasNot⟩
  | hasNotText => exact ⟨⟨htext, hspecifier⟩, hhas, hhasNot⟩
  | has => exact ⟨⟨htext, hnotText⟩, hinner, hhasNot⟩
  | hasNot => exact ⟨⟨htext, hnotText⟩, hhas, hinner⟩
  | visible | nth => exact ⟨⟨htext, hnotText⟩, hhas, hhasNot⟩

namespace Selector

/-- The selector of a recorded text is formed, and so is every one inside its filters. -/
theorem formed_throughout (raw : Option Text) : (ofRecorded raw).IsFormedThroughout := by
  have hresolvable : IsResolvable IsFormedThroughout Filters.IsFormed := {
    query := fun _ => isFormed_ofElement nofun
    target := fun htarget hf nth => isFormed_withFilters (Chain.isCompiled_element htarget) hf nth
    none := Filters.isFormed_none
    update := Chain.FilterKind.isFormed_update }
  exact hresolvable.ofRecorded raw

end Selector

end Scenarist

import Mathlib.Data.List.Induction
import Scenarist.Selector.Recorded

/-! # The parts behind the element

Every part behind the element sets one filter, or the place, or nothing. The last part of an engine
has the say, so a filter is lost without a warning exactly when a later one of its engine says
something else.
-/

namespace Scenarist

namespace Chain

/-! ## Kinds of filters -/

/-- What a part behind the element can set. -/
inductive FilterKind where
  | hasText
  | hasNotText
  | has
  | hasNot
  | visible
  | nth

namespace FilterKind

def all : List FilterKind := [hasText, hasNotText, has, hasNot, visible, nth]

/-- The engine of the parts that set it. -/
def engine : FilterKind → Text
  | hasText => "has-text"
  | hasNotText => "has-not-text"
  | has => "has"
  | hasNot => "has-not"
  | visible => "visible"
  | nth => "nth"

theorem mem_filterEngines {engine : Text} :
    engine ∈ filterEngines ↔ ∃ k : FilterKind, k.engine = engine := by
  have hall : filterEngines = all.map FilterKind.engine := rfl
  rw [hall, List.mem_map]
  constructor
  · rintro ⟨k, -, h⟩
    exact ⟨k, h⟩
  · rintro ⟨k, h⟩
    exact ⟨k, by cases k <;> simp [all], h⟩

/-- The narrowing with what a part of this kind sets. A place that is no number is passed over, but
a filter that quotes no chain takes the place of one before it. -/
def update (k : FilterKind) (source : Text) (inner : Option Selector) (w : Narrowing) : Narrowing :=
  match k with
  | hasText => { w with filters := { w.filters with hasText := some (.ofSpecifier source) } }
  | hasNotText => { w with filters := { w.filters with hasNotText := some (.ofSpecifier source) } }
  | has => { w with filters := { w.filters with has := inner } }
  | hasNot => { w with filters := { w.filters with hasNot := inner } }
  | visible => { w
      with filters := { w.filters with visible := some (Text.trim source != "false".toList) } }
  | nth => { w with nth := (place? source).or w.nth }

theorem update_comm {k l : FilterKind} (h : k ≠ l) (s t : Text) (i j : Option Selector)
    (w : Narrowing) :
    l.update t j (k.update s i w) = k.update s i (l.update t j w) := by
  cases k <;> cases l <;> first | rfl | exact absurd rfl h

end FilterKind

/-! ## One part -/

theorem narrow_kind (k : FilterKind) {p : Part} (h : p.engine = k.engine) (w : Narrowing)
    (i : Noted (Option Selector)) :
    (narrow w p i).value = k.update p.source i.value w := by
  simp only [narrow, h]
  cases k with
  | nth =>
    simp only [FilterKind.update]
    cases place? p.source <;> rfl
  | _ => rfl

theorem narrow_other {p : Part} (h : p.engine ∉ filterEngines) (w : Narrowing)
    (i : Noted (Option Selector)) :
    (narrow w p i).value = w := by
  have hne : ∀ t ∈ filterEngines, p.engine ≠ t := fun t ht heq => h (heq ▸ ht)
  rw [narrow, if_neg (hne _ (by decide)), if_neg (hne _ (by decide)), if_neg (hne _ (by decide)),
    if_neg (hne _ (by decide)), if_neg (hne _ (by decide)), if_neg (hne _ (by decide))]
  split <;> rfl

theorem narrow_comm (w : Narrowing) (p q : Part) (i j : Noted (Option Selector))
    (h : p.engine ≠ q.engine) :
    (narrow (narrow w p i).value q j).value = (narrow (narrow w q j).value p i).value := by
  by_cases hp : p.engine ∈ filterEngines
  · obtain ⟨k, hk⟩ := FilterKind.mem_filterEngines.mp hp
    by_cases hq : q.engine ∈ filterEngines
    · obtain ⟨l, hl⟩ := FilterKind.mem_filterEngines.mp hq
      have hkl : k ≠ l := by
        rintro rfl
        exact h (hk.symm.trans hl)
      simp only [narrow_kind k hk.symm, narrow_kind l hl.symm, FilterKind.update_comm hkl]
    · simp only [narrow_other hq]
  · simp only [narrow_other hp]

/-- The step of the fold over the parts behind the element. -/
def step (w : Narrowing) (p : Part) : Narrowing := (narrow w p (innerSelector p)).value

/-! ## What a part says -/

/-- A filter or a place that is set. -/
inductive Setting where
  | hasText (m : TextMatcher)
  | hasNotText (m : TextMatcher)
  | has (s : Selector)
  | hasNot (s : Selector)
  | visible (b : Bool)
  | nth (n : Int32)

def Narrowing.setting? (w : Narrowing) : FilterKind → Option Setting
  | .hasText => w.filters.hasText.map .hasText
  | .hasNotText => w.filters.hasNotText.map .hasNotText
  | .has => w.filters.has.map .has
  | .hasNot => w.filters.hasNot.map .hasNot
  | .visible => w.filters.visible.map .visible
  | .nth => w.nth.map .nth

namespace FilterKind

/-- What a part of this kind says about the element, if it says something. -/
def denoted? (k : FilterKind) (p : Part) : Option Setting :=
  match k with
  | hasText => some (.hasText (.ofSpecifier p.source))
  | hasNotText => some (.hasNotText (.ofSpecifier p.source))
  | has => (innerSelector p).value.map .has
  | hasNot => (innerSelector p).value.map .hasNot
  | visible => some (.visible (Text.trim p.source != "false".toList))
  | nth => (place? p.source).map .nth

/-- The part changes what is set of this kind. -/
def isSetBy (k : FilterKind) (p : Part) : Bool :=
  p.engine == k.engine &&
    match k with
    | nth => (place? p.source).isSome
    | _ => true

/-- The warning that a part of this kind says nothing. -/
def refusal? (k : FilterKind) (p : Part) : Option Warning :=
  match k with
  | has | hasNot => if p.inner?.isNone then some (.noInnerChain p.name) else none
  | nth => if (place? p.source).isNone then some (.placeNotInteger p.source) else none
  | _ => none

/-- The warnings about the chain that a part of this kind quotes. -/
def quotedWarnings (k : FilterKind) (p : Part) : List Warning :=
  match k with
  | has | hasNot => p.inner?.elim [] fun c => (toSelector c.toText c).warnings
  | _ => []

theorem setting?_update_ne {k l : FilterKind} (h : k ≠ l) (source : Text) (inner : Option Selector)
    (w : Narrowing) :
    (l.update source inner w).setting? k = w.setting? k := by
  cases k <;> cases l <;> first | rfl | exact absurd rfl h

theorem refusal?_isSome (k : FilterKind) (p : Part) :
    (k.refusal? p).isSome = (k.denoted? p).isNone := by
  have hinner : p.inner?.isNone = (innerSelector p).value.isNone := by
    cases p <;> simp [Part.inner?, innerSelector, Noted.map]
  cases k with
  | has => simp only [refusal?, denoted?, hinner]; cases (innerSelector p).value <;> rfl
  | hasNot => simp only [refusal?, denoted?, hinner]; cases (innerSelector p).value <;> rfl
  | nth => simp only [refusal?, denoted?]; cases place? p.source <;> rfl
  | _ => rfl

theorem setting?_step (k : FilterKind) (w : Narrowing) (p : Part) :
    (step w p).setting? k = if k.isSetBy p then k.denoted? p else w.setting? k := by
  by_cases h : p.engine = k.engine
  · rw [step, narrow_kind k h]
    cases k with
    | nth =>
      have hset : nth.isSetBy p = (place? p.source).isSome := by simp [isSetBy, h]
      rw [hset]
      simp only [update, denoted?, Narrowing.setting?]
      cases place? p.source <;> simp
    | _ => exact (if_pos (by simp [isSetBy, h])).symm
  · rw [if_neg (by simp [isSetBy, h])]
    by_cases hp : p.engine ∈ filterEngines
    · obtain ⟨l, hl⟩ := mem_filterEngines.mp hp
      rw [step, narrow_kind l hl.symm, setting?_update_ne]
      rintro rfl
      exact h hl.symm
    · rw [step, narrow_other hp]

/-- The last part that sets something of a kind has the say. -/
theorem setting?_foldl (k : FilterKind) (ps : List Part) (w : Narrowing) :
    (ps.foldl step w).setting? k =
      ((ps.filter k.isSetBy).getLast?.map k.denoted?).getD (w.setting? k) := by
  induction ps using List.reverseRecOn with
  | nil => rfl
  | append_singleton ps p ih =>
    rw [List.foldl_append, List.foldl_cons, List.foldl_nil, setting?_step, List.filter_append,
      List.filter_cons, List.filter_nil]
    cases k.isSetBy p with
    | true => simp
    | false => simpa using ih

end FilterKind

/-! ## Warnings -/

/-- The warnings about a part behind the element. -/
def partWarnings (p : Part) : List Warning :=
  match FilterKind.all.find? (fun k => k.engine == p.engine) with
  | some k => (k.refusal? p).toList ++ k.quotedWarnings p
  | none => if p.engine.isOneOf ignoredEngines then [] else [.unsupportedFilter p.engine]

theorem find?_kind (k : FilterKind) {p : Part} (h : p.engine = k.engine) :
    FilterKind.all.find? (fun l => l.engine == p.engine) = some k := by
  rw [h]
  cases k <;> rfl

theorem partWarnings_other {p : Part} (h : p.engine ∉ filterEngines) :
    partWarnings p = if p.engine.isOneOf ignoredEngines then []
      else [.unsupportedFilter p.engine] := by
  have hfind : FilterKind.all.find? (fun k => k.engine == p.engine) = none := by
    rw [List.find?_eq_none]
    intro k _ heq
    exact h (FilterKind.mem_filterEngines.mpr ⟨k, beq_iff_eq.mp heq⟩)
  rw [partWarnings, hfind]

theorem narrow_warnings (w : Narrowing) (p : Part) :
    (narrow w p (innerSelector p)).warnings = partWarnings p := by
  by_cases hp : p.engine ∈ filterEngines
  · obtain ⟨k, hk⟩ := FilterKind.mem_filterEngines.mp hp
    rw [partWarnings, find?_kind k hk.symm]
    simp only [narrow, hk.symm]
    cases k with
    | nth =>
      simp only [FilterKind.refusal?]
      cases place? p.source <;> rfl
    | _ => cases p <;> rfl
  · have hne : ∀ t ∈ filterEngines, p.engine ≠ t := fun t ht heq => hp (heq ▸ ht)
    rw [partWarnings_other hp, narrow, if_neg (hne _ (by decide)), if_neg (hne _ (by decide)),
      if_neg (hne _ (by decide)),
      if_neg (hne _ (by decide)), if_neg (hne _ (by decide)), if_neg (hne _ (by decide))]
    split <;> rfl

theorem narrowAll_eq (w : Narrowing) (ps : List Part) :
    narrowAll 0 w ps = ⟨ps.foldl step w, ps.flatMap partWarnings⟩ := by
  induction ps generalizing w with
  | nil => rfl
  | cons p ps ih =>
    rw [narrowAll, Noted.andThen, ih, narrow_warnings]
    rfl

theorem narrowAll_quiet (w : Narrowing) (ps : List Part)
    (h : ∀ p ∈ ps, ∀ w, (narrow w p (innerSelector p)).warnings = []) :
    narrowAll 0 w ps = .quiet (ps.foldl step w) := by
  have hquiet : ps.flatMap partWarnings = [] :=
    List.flatMap_eq_nil_iff.mpr fun p hp => (narrow_warnings w p).symm.trans (h p hp w)
  rw [narrowAll_eq, hquiet]
  rfl

theorem narrowAll_skip (n : Nat) (w : Narrowing) (ps : List Part) :
    narrowAll n w ps = narrowAll 0 w (ps.drop n) := by
  induction ps generalizing n with
  | nil => cases n <;> rfl
  | cons p ps ih =>
    cases n with
    | zero => rfl
    | succ n => rw [narrowAll, ih, List.drop_succ_cons]

/-! ## The selector of a chain -/

/-- A chain whose base names an element becomes this element, narrowed by the parts behind it. -/
theorem toSelector_eq (raw : Text) {c : Chain} {base : Nat} {part : Part} {target : Element}
    (hbase : c.base? = some base) (hpart : c.parts[base]? = some part)
    (htarget : (element part).value = some target) :
    toSelector raw c =
      let rest := (c.parts.drop (base + 1)).foldl step .none
      ⟨{ (Selector.ofElement target).withFilters rest.filters with nth := rest.nth },
        (element part).warnings ++ droppedAncestors (c.parts.take base) ++
        (c.parts.drop (base + 1)).flatMap partWarnings⟩ := by
  obtain ⟨parts, capture⟩ := c
  rw [toSelector]
  simp only [hbase, hpart, htarget, narrowAll_skip (base + 1), narrowAll_eq]

end Chain

/-- What the filters and the place of a selector set. -/
def Selector.narrowing (s : Selector) : Chain.Narrowing := ⟨s.filters.getD .none, s.nth⟩

theorem Filters.eq_none_of_isEmpty {f : Filters} (h : f.isEmpty = true) : f = .none := by
  obtain ⟨hasText, hasNotText, visible, has, hasNot⟩ := f
  simp only [isEmpty, Bool.and_eq_true, Option.isNone_iff_eq_none] at h
  obtain ⟨⟨⟨⟨rfl, rfl⟩, rfl⟩, rfl⟩, rfl⟩ := h
  rfl

theorem Selector.narrowing_withFilters (target : Element) (w : Chain.Narrowing) :
    ({ (ofElement target).withFilters w.filters with nth := w.nth } : Selector).narrowing = w := by
  obtain ⟨f, n⟩ := w
  simp only [narrowing, withFilters]
  split
  · rename_i h
    rw [Filters.eq_none_of_isEmpty h]
    rfl
  · rfl

/-! ## What becomes of each part -/

namespace Chain.FilterKind

/-- What the part says is what the selector has of this kind, or a warning tells that it says
nothing. -/
def IsAccounted (k : FilterKind) (p : Part) (s : Selector) : Prop :=
  (∃ x, k.denoted? p = some x ∧ s.narrowing.setting? k = some x) ∨ (k.refusal? p).isSome = true

/-- The last part behind it that sets this kind, if there is one, says the same. -/
def Lasts (k : FilterKind) (p : Part) (later : List Part) : Prop :=
  ∀ q ∈ (later.filter k.isSetBy).getLast?, k.denoted? q = k.denoted? p

theorem isSetBy_of_denoted {k : FilterKind} {p : Part} (h : p.engine = k.engine)
    (hp : k.denoted? p ≠ none) :
    k.isSetBy p = true := by
  cases k with
  | nth =>
    have hplace : (place? p.source).isSome = true := by
      cases hplace : place? p.source with
      | none => exact absurd (by rw [denoted?, hplace]; rfl) hp
      | some n => rfl
    simp [isSetBy, h, hplace]
  | _ => simp [isSetBy, h]

theorem isAccounted_iff {k : FilterKind} {p : Part} (h : p.engine = k.engine)
    {earlier later : List Part} {s : Selector}
    (hs : s.narrowing = (earlier ++ p :: later).foldl step .none) :
    k.IsAccounted p s ↔ k.denoted? p = none ∨ k.Lasts p later := by
  rw [IsAccounted, refusal?_isSome]
  cases hp : k.denoted? p with
  | none => simp
  | some x =>
    have hset : (step (earlier.foldl step .none) p).setting? k = some x := by
      rw [setting?_step, if_pos (isSetBy_of_denoted h (by simp [hp])), hp]
    have hfinal : s.narrowing.setting? k =
        ((later.filter k.isSetBy).getLast?.map k.denoted?).getD (some x) := by
      rw [hs, List.foldl_append, List.foldl_cons, setting?_foldl, hset]
    rw [hfinal, Lasts, hp]
    cases (later.filter k.isSetBy).getLast? <;> simp

end Chain.FilterKind

namespace Selector

open Chain

/-- Nothing that narrows an element is lost without a trace but what a later part of its engine
takes the place of: the warnings are those about the element, the ancestors and each part behind it,
and a filter that says something is in the selector exactly when it lasts. -/
theorem filters_accounted {raw : Text} {c : Chain} {base : Nat} {part : Part} {target : Element}
    (hread : Chain.read raw = .ok c) (hbase : c.base? = some base)
    (hpart : c.parts[base]? = some part)
    (htarget : (Chain.element part).value = some target) :
    ∃ s, (ofRecorded? raw).value = some s ∧ s.element = some target ∧
      (ofRecorded? raw).warnings = (Chain.element part).warnings ++
        droppedAncestors (c.parts.take base) ++
        (c.parts.drop (base + 1)).flatMap partWarnings ∧
      (∀ earlier p later, c.parts.drop (base + 1) = earlier ++ p :: later →
        ∀ k : FilterKind, p.engine = k.engine →
        partWarnings p = (k.refusal? p).toList ++ k.quotedWarnings p ∧
          (k.IsAccounted p s ↔ k.denoted? p = none ∨ k.Lasts p later)) ∧
      (∀ p ∈ c.parts.drop (base + 1), p.engine ∉ filterEngines → p.engine ∉ ignoredEngines →
        partWarnings p = [.unsupportedFilter p.engine]) ∧
      ∀ p ∈ c.parts.take base, p.engine ∉ ignoredEngines →
        .droppedAncestor p.name p.source ∈ droppedAncestors (c.parts.take base) := by
  have hignored {p : Part} (h : p.engine ∉ ignoredEngines) :
      p.engine.isOneOf ignoredEngines = false := by
    rw [Text.isOneOf, List.any_eq_false]
    intro u hu heq
    exact h (beq_iff_eq.mp heq ▸ hu)
  have hof : ofRecorded? raw = (c.toSelector raw).map some := by rw [ofRecorded?, hread]
  have hmapped := toSelector_eq raw hbase hpart htarget
  refine ⟨(c.toSelector raw).value, by rw [hof]; rfl, ?_, ?_, ?_, ?_, ?_⟩
  · rw [hmapped]
    rfl
  · rw [hof, hmapped]
    rfl
  · intro earlier p later hparts k hk
    have hnarrowing :
        (c.toSelector raw).value.narrowing = (earlier ++ p :: later).foldl step .none := by
      rw [hmapped, narrowing_withFilters, hparts]
    exact ⟨by rw [partWarnings, find?_kind k hk], FilterKind.isAccounted_iff hk hnarrowing⟩
  · intro p _ hfilter hp
    rw [partWarnings_other hfilter, hignored hp]
    rfl
  · intro p hp hne
    exact List.mem_map.mpr ⟨p, List.mem_filter.mpr ⟨hp, by rw [hignored hne]; rfl⟩, rfl⟩

/-- A list's items, of which the third is meant: the first place is no number, and of two
visibilities the second has the say. -/
theorem list_items_accounted :
    let raw : Text := "ul >> *css=li >> visible=true >> nth=first >> nth=2 >> visible=false"
    let c : Chain :=
      ⟨[.plain "css" "ul", .plain "css" "li", .plain "visible" "true", .plain "nth" "first",
      .plain "nth" "2",
      .plain "visible" "false"], some 1⟩
    Chain.read raw = .ok c ∧ c.base? = some 1 ∧
      ∃ s, (ofRecorded? raw).value = some s ∧ s.element = some (.css "li") ∧
        (ofRecorded? raw).warnings = [.droppedAncestor "css" "ul", .placeNotInteger "first"] ∧
        FilterKind.nth.IsAccounted (.plain "nth" "2") s ∧
          ¬FilterKind.visible.IsAccounted (.plain "visible" "true") s := by
  intro raw c
  have hread : Chain.read raw = .ok c := by rfl
  have hbase : c.base? = some 1 := rfl
  have hpart : c.parts[1]? = some (.plain "css" "li") := rfl
  have htarget : (Chain.element (.plain "css" "li")).value = some (.css "li") := rfl
  obtain ⟨s, hs, helement, hwarnings, hfilters, -⟩ := filters_accounted hread hbase hpart htarget
  have hnth := hfilters [.plain "visible" "true", .plain "nth" "first"]
      (.plain "nth" "2") [.plain "visible" "false"] rfl .nth rfl
  have hvisible := hfilters [] (.plain "visible" "true") _ rfl .visible rfl
  refine ⟨hread, hbase, s, hs, helement, hwarnings, hnth.2.mpr (.inr ?_), fun h => ?_⟩
  · rintro q ⟨⟩
  · rcases hvisible.2.mp h with hsilent | hlasts
    · exact absurd hsilent (by simp [FilterKind.denoted?])
    · have hsame := hlasts (.plain "visible" "false") rfl
      exact absurd (Setting.visible.inj (Option.some.inj hsame)) (by decide)

/-- Of two texts that an element has to hold, the first is forgotten, and no warning tells it. -/
theorem repeated_filter_lost :
    let raw : Text := "css=li >> internal:has-text=\"Ada\" >> internal:has-text=\"Grace\""
    let c : Chain :=
      ⟨[.plain "css" "li", .plain "internal:has-text" "\"Ada\"",
      .plain "internal:has-text" "\"Grace\""], none⟩
    let s : Selector :=
      { ofElement (.css "li")
        with filters := some { Filters.none with hasText := some (.plain "Grace") } }
    Chain.read raw = .ok c ∧ c.base? = some 0 ∧ (ofRecorded? raw).value = some s ∧
      (ofRecorded? raw).warnings.length = 0 ∧
      ¬FilterKind.hasText.IsAccounted (.plain "internal:has-text" "\"Ada\"") s := by
  intro raw c s
  have hfirst : TextMatcher.ofSpecifier "\"Ada\"" = .plain "Ada" := by decide +kernel
  refine ⟨by rfl, rfl, by decide +kernel, by decide +kernel, fun h => ?_⟩
  rcases h with ⟨x, hx, hsame⟩ | hrefused
  · rw [FilterKind.denoted?, Part.source, hfirst] at hx
    have hGrace : Setting.hasText (.plain "Grace") = .hasText (.plain "Ada") :=
      Option.some.inj (hsame.trans hx.symm)
    exact absurd (Setting.hasText.inj hGrace) (by decide)
  · exact absurd hrefused (by decide)

end Selector

end Scenarist

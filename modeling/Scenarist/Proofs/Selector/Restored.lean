import Scenarist.Proofs.Yaml.Fields

/-! # Selectors read back

The parts of a selector are written without their defaults and read back as they were. Where a node
may have one of several forms, no form before the right one fits.
-/

namespace Scenarist

open Yaml

variable {e : Json → Node}

/-! ## Scalars -/

theorem Yaml.Faithful.textField (he : Faithful e) (t : Text) : Restored e Node.text? .string t :=
  ⟨by simp, .string t, he.text t⟩

theorem Yaml.Faithful.boolField (he : Faithful e) (b : Bool) : Restored e Node.bool? .bool b :=
  ⟨by simp, .bool b, he.bool b⟩

theorem Yaml.Faithful.uint32Field (he : Faithful e) (n : UInt32) :
    Restored e Node.uint32? (fun n => .number (.ofUInt32 n)) n :=
  ⟨by simp, .number _ rfl, he.uint32 n⟩

theorem Yaml.Faithful.int32Field (he : Faithful e) (n : Int32) :
    Restored e Node.int32? (fun n => .number (.ofInt32 n)) n :=
  ⟨by simp, .number _ rfl, he.int32 n⟩

/-! ## Matchers and states -/

theorem TextMatcher.settles (m : TextMatcher) : Settles m.toJson := by
  cases m with
  | plain t => exact .string t
  | exact t b =>
    refine .ofKeys ["exact", "caseSensitive"] (by decide) rfl ?_
    simp only [List.forall_mem_cons]
    exact ⟨.string t, .bool b, by simp⟩
  | regex p flags =>
    cases flags with
    | nil =>
      refine .ofKeys ["regex".toList] (by decide) rfl ?_
      simp only [List.forall_mem_cons]
      exact ⟨.string p, by simp⟩
    | cons c r =>
      refine .ofKeys ["regex", "flags"] (by decide) rfl ?_
      exact List.forall_mem_cons.mpr ⟨.string p, List.forall_mem_cons.mpr ⟨.string _, by simp⟩⟩

theorem TextMatcher.ofNode?_settled (m : TextMatcher) :
    ofNode? (.ofJson m.toJson.strip) = some m := by
  cases m with
  | plain t => rfl
  | exact t b => rfl
  | regex p flags => cases flags <;> rfl

theorem TextMatcher.restored (m : TextMatcher) (he : Faithful e) : Restored e ofNode? toJson m := by
  refine ⟨?_, m.settles.strip.isFinite, ?_⟩
  · cases m <;> simp [toJson]
  · rw [← m.ofNode?_settled, ofNode?, he.content m.settles.strip]
    rfl

theorem AriaState.restored (s : AriaState) (he : Faithful e) : Restored e ofNode? toJson s := by
  have hsettles : Settles s.toJson := by
    cases s <;> first | exact .bool _ | exact .string _
  refine ⟨?_, hsettles.strip.isFinite, ?_⟩
  · cases s <;> simp [toJson]
  · rw [ofNode?, ofNode, he.content hsettles.strip]
    cases s <;> rfl

/-! ## Elements -/

theorem RoleElement.settles (r : RoleElement) : Settles r.toJson := by
  have hstate : ∀ o : Option AriaState, Settles (Json.orNull AriaState.toJson o) := by
    refine fun o => .orNull fun s _ => ?_
    cases s <;> first | exact .bool _ | exact .string _
  refine .ofKeys fieldNames (by decide) rfl ?_
  simp only [List.forall_mem_cons]
  exact ⟨.string _, .orNull fun m _ => m.settles, hstate _, hstate _, hstate _, hstate _, hstate _,
    .orNull fun b _ => .bool b, .orNull fun n _ => .number _ rfl, by simp⟩

theorem RoleElement.restored (r : RoleElement) (he : Faithful e) : Restored e ofNode? toJson r := by
  refine ⟨by simp [toJson], r.settles.strip.isFinite, ?_⟩
  have hkeys : (r.toJson.membersOf.map Prod.fst).Nodup := (by decide : fieldNames.Nodup)
  obtain ⟨fields, -, hrecord, h⟩ := he.holds_strip fieldNames (by decide) (v := r.toJson) rfl hkeys
  have hstate : ∀ (name : Text) (o : Option AriaState), name.isOneOf fieldNames = true →
      r.toJson.membersOf.lookup name = some (.orNull AriaState.toJson o) →
      name ≠ "debug" ∧ name ≠ "modifiers" ∧ name ≠ "framePath" →
      fields.optional? name false AriaState.ofNode? = some o :=
        fun name o hname hlookup hordinary =>
    h.restored he hkeys (fun s _ => s.restored he) hname hlookup hordinary false
  rw [ofNode?, hrecord, Option.bind_eq_bind, Option.bind_some,
    h.required (by decide) hkeys rfl (by decide) (he.textField r.role),
    h.restored he hkeys (fun m _ => m.restored he) (by decide) rfl (by decide) false,
    hstate "checked" r.checked (by decide) rfl (by decide),
    hstate "pressed" r.pressed (by decide) rfl (by decide),
    hstate "selected" r.selected (by decide) rfl (by decide),
    hstate "expanded" r.expanded (by decide) rfl (by decide),
    hstate "disabled" r.disabled (by decide) rfl (by decide),
    h.restored he hkeys (fun b _ => he.boolField b) (by decide) rfl (by decide) false,
    h.restored he hkeys (fun n _ => he.uint32Field n) (by decide) rfl (by decide) false]
  rfl

theorem TextMatcher.shapes {motive : TextMatcher → Prop} (plain : ∀ t, motive (.plain t))
    (exact : ∀ t b, motive (.exact t b)) (bare : ∀ p, motive (.regex p []))
    (flagged : ∀ p c r, motive (.regex p (c :: r))) (m : TextMatcher) : motive m := by
  cases m with
  | plain t => exact plain t
  | exact t b => exact exact t b
  | regex p flags =>
    cases flags with
    | nil => exact bare p
    | cons c r => exact flagged p c r

theorem Element.settles (v : Element) : Settles v.toJson := by
  have hfield : ∀ (name : Text) (w : Json), isTextKey name = true → Settles w →
      Settles (.object [(name, w)]) :=
    fun name w hname hw => .ofKeys [name] (by simpa using hname) rfl (by simpa using hw)
  cases v with
  | role r => exact r.settles
  | testId t => exact hfield "testId" _ (by decide) (.string t)
  | css t => exact hfield "css" _ (by decide) (.string t)
  | xpath t => exact hfield "xpath" _ (by decide) (.string t)
  | text m => exact hfield "text" _ (by decide) m.settles
  | label m => exact hfield "label" _ (by decide) m.settles
  | placeholder m => exact hfield "placeholder" _ (by decide) m.settles
  | alt m => exact hfield "alt" _ (by decide) m.settles
  | title m => exact hfield "title" _ (by decide) m.settles

theorem Element.ofNode?_settled (v : Element) : ofNode? (.ofJson v.toJson.strip) = some v := by
  cases v with
  | role r =>
    have hread : (RoleElement.ofNode? (.ofJson r.toJson.strip)).map Element.role =
        some (.role r) := by
      rw [(r.restored faithful_ofJson).read]
      rfl
    change ((RoleElement.ofNode? (.ofJson r.toJson.strip)).map Element.role <|> _) =
      some (Element.role r)
    rw [hread]
    rfl
  | testId t => rfl
  | css t => rfl
  | xpath t => rfl
  | text m => cases m using TextMatcher.shapes <;> rfl
  | label m => cases m using TextMatcher.shapes <;> rfl
  | placeholder m => cases m using TextMatcher.shapes <;> rfl
  | alt m => cases m using TextMatcher.shapes <;> rfl
  | title m => cases m using TextMatcher.shapes <;> rfl

theorem Element.restored (v : Element) (he : Faithful e) : Restored e ofNode? toJson v := by
  refine ⟨?_, v.settles.strip.isFinite, ?_⟩
  · cases v <;> simp [toJson, RoleElement.toJson]
  · rw [← v.ofNode?_settled, ofNode?, he.content v.settles.strip]
    rfl

/-! ## Frames -/

theorem FrameRef.settles (r : FrameRef) : Settles r.toJson := by
  have hkind : ∀ (field : Text) (v : Json) (kind : Option Text), isTextKey field = true →
      Settles v →
      Settles (toJson.withKind field v kind) := fun field v kind hfield hv => by
    refine .ofKeys [field, "kind"] ?_ rfl ?_
    · rw [List.all_cons, hfield]
      decide
    · exact List.forall_mem_cons.mpr
        ⟨hv, List.forall_mem_cons.mpr ⟨.orNull fun t _ => .string t, by simp⟩⟩
  cases r with
  | name t kind => exact hkind _ _ kind (by decide) (.string t)
  | url t kind => exact hkind _ _ kind (by decide) (.string t)
  | urlContains t kind => exact hkind _ _ kind (by decide) (.string t)
  | index n kind => exact hkind _ _ kind (by decide) (.number _ rfl)
  | selector raw => exact .ofKeys ["selector".toList] (by decide) rfl (by simpa using .string raw)

theorem FrameRef.ofNode?_settled (r : FrameRef) : ofNode? (.ofJson r.toJson.strip) = some r := by
  cases r with
  | name t kind => cases kind <;> rfl
  | url t kind => cases kind <;> rfl
  | urlContains t kind => cases kind <;> rfl
  | index n kind =>
    have hindex : ∀ k : Number, k.toUInt32? = some n →
        ofNode? (.ofJson (toJson.withKind "index" (.number k) kind).strip) =
          some (.index n kind) := by
      intro k hk
      cases kind with
      | none =>
        change ((k.toUInt32?.bind fun i => some (FrameRef.index i none)) <|> _) = _
        rw [hk]
        rfl
      | some t =>
        change ((k.toUInt32?.bind fun i => some (FrameRef.index i (some t))) <|> _) = _
        rw [hk]
        rfl
    exact hindex _ (toUInt32?_ofUInt32 n)
  | selector raw => rfl

theorem FrameRef.restored (r : FrameRef) (he : Faithful e) : Restored e ofNode? toJson r := by
  refine ⟨?_, r.settles.strip.isFinite, ?_⟩
  · cases r <;> simp [toJson, toJson.withKind]
  · rw [← r.ofNode?_settled, ofNode?, he.content r.settles.strip]
    rfl

/-! ## Selectors -/

mutual

/-- No frame path is there without frames, at any depth. -/
def Selector.isTidy : Selector → Bool
  | ⟨_, framePath, _, filters, _⟩ => framePath != some [] && filtersTidy filters

def filtersTidy : Option Filters → Bool
  | none => true
  | some f => Filters.isTidy f

def Filters.isTidy : Filters → Bool
  | ⟨_, _, _, has, hasNot⟩ => innerTidy has && innerTidy hasNot

def innerTidy : Option Selector → Bool
  | none => true
  | some s => Selector.isTidy s

end

def Selector.fieldNames : List Text := ["page", "framePath", "element", "filters", "nth"]

def Filters.fieldNames : List Text := ["hasText", "hasNotText", "visible", "has", "hasNot"]

theorem Selector.members_spec (s : Selector) :
    s.toJson = .object s.toJson.membersOf ∧ s.toJson.membersOf.map Prod.fst = fieldNames ∧
      s.toJson.membersOf.lookup "filters".toList = some (Json.orNull Filters.toJson s.filters) := by
  obtain ⟨page, framePath, element, filters, nth⟩ := s
  cases filters <;> exact ⟨rfl, rfl, rfl⟩

theorem Filters.members_spec (f : Filters) :
    f.toJson = .object f.toJson.membersOf ∧ f.toJson.membersOf.map Prod.fst = fieldNames ∧
      f.toJson.membersOf.lookup "has".toList = some (Json.orNull Selector.toJson f.has) ∧
      f.toJson.membersOf.lookup "hasNot".toList = some (Json.orNull Selector.toJson f.hasNot) := by
  obtain ⟨hasText, hasNotText, visible, has, hasNot⟩ := f
  cases has <;> cases hasNot <;> exact ⟨rfl, rfl, rfl, rfl⟩

theorem Selector.keys_nodup (s : Selector) : (s.toJson.membersOf.map Prod.fst).Nodup := by
  rw [s.members_spec.2.1]
  decide

theorem Filters.keys_nodup (f : Filters) : (f.toJson.membersOf.map Prod.fst).Nodup := by
  rw [f.members_spec.2.1]
  decide

theorem Selector.isTidy_iff (s : Selector) :
    s.isTidy = true ↔ s.framePath ≠ some [] ∧ ∀ f ∈ s.filters, f.isTidy = true := by
  obtain ⟨page, framePath, element, filters, nth⟩ := s
  cases filters <;> simp [isTidy, filtersTidy]

theorem Filters.isTidy_iff (f : Filters) :
    f.isTidy = true ↔ (∀ s ∈ f.has, s.isTidy = true) ∧ ∀ s ∈ f.hasNot, s.isTidy = true := by
  obtain ⟨hasText, hasNotText, visible, has, hasNot⟩ := f
  cases has <;> cases hasNot <;> simp [isTidy, innerTidy]

mutual

theorem Selector.settles : ∀ s : Selector, Settles s.toJson
  | ⟨page, framePath, element, filters, nth⟩ => by
    refine .ofKeys Selector.fieldNames (by decide) rfl ?_
    simp only [List.forall_mem_cons]
    refine ⟨.orNull fun t _ => .string t, .orNull fun path _ => .array _ fun v hv => ?_,
      .orNull fun v _ => v.settles,
      filtersSettle filters, .orNull fun n _ => .number _ rfl, by simp⟩
    obtain ⟨r, -, rfl⟩ := List.mem_map.mp hv
    exact r.settles

theorem filtersSettle : ∀ o : Option Filters, Settles (filtersJson o)
  | none => .null
  | some f => Filters.settles f

theorem Filters.settles : ∀ f : Filters, Settles f.toJson
  | ⟨hasText, hasNotText, visible, has, hasNot⟩ => by
    refine .ofKeys Filters.fieldNames (by decide) rfl ?_
    simp only [List.forall_mem_cons]
    exact ⟨.orNull fun m _ => m.settles, .orNull fun m _ => m.settles, .orNull fun b _ => .bool b,
      innerSettles has, innerSettles hasNot, by simp⟩

theorem innerSettles : ∀ o : Option Selector, Settles (innerJson o)
  | none => .null
  | some s => Selector.settles s

end

/-! ## Heights

What stands in a selector is lower than the selector, so the room that is left suffices for it.
-/

theorem Selector.height_filters (he : Faithful e) {s : Selector} {f : Filters}
    (hf : f ∈ s.filters) :
    (e f.toJson.strip).height < (e s.toJson.strip).height := by
  obtain ⟨hobject, -, hfilters⟩ := s.members_spec
  refine he.height_field hobject s.keys_nodup hfilters ?_
  rw [hf]
  exact Json.keep?_ordinary (by decide) (by rw [Json.orNull, f.members_spec.1]; simp)

theorem Filters.height_inner (he : Faithful e) {f : Filters} {s : Selector}
    (hs : s ∈ f.has ∨ s ∈ f.hasNot) :
    (e s.toJson.strip).height < (e f.toJson.strip).height := by
  obtain ⟨hobject, -, hhas, hhasNot⟩ := f.members_spec
  rcases hs with hs | hs
  · refine he.height_field hobject f.keys_nodup hhas ?_
    rw [hs]
    exact Json.keep?_ordinary (by decide) (by rw [Json.orNull, s.members_spec.1]; simp)
  · refine he.height_field hobject f.keys_nodup hhasNot ?_
    rw [hs]
    exact Json.keep?_ordinary (by decide) (by rw [Json.orNull, s.members_spec.1]; simp)

/-! ## Reading back -/

theorem Filters.restored (f : Filters) (he : Faithful e) {inner? : Node → Option Selector}
    (hhas : ∀ s ∈ f.has, Restored e inner? Selector.toJson s)
    (hhasNot : ∀ s ∈ f.hasNot, Restored e inner? Selector.toJson s) :
    Restored e (ofNodeWith? inner?) toJson f := by
  obtain ⟨hobject, -, hlookup, hlookupNot⟩ := f.members_spec
  have hkeys := f.keys_nodup
  refine ⟨by rw [hobject]; simp, f.settles.strip.isFinite, ?_⟩
  obtain ⟨r, -, hrecord, h⟩ := he.holds_strip fieldNames (by decide) hobject hkeys
  change ((e f.toJson.strip).record? fieldNames).bind _ = _
  obtain ⟨hasText, hasNotText, visible, has, hasNot⟩ := f
  rw [hrecord, Option.bind_some,
    h.restored he hkeys (fun m _ => m.restored he) (o := hasText) (by decide) rfl (by decide) false,
    h.restored he hkeys (fun m _ => m.restored he) (o := hasNotText)
      (by decide) rfl (by decide) false,
    h.restored he hkeys (fun b _ => he.boolField b) (o := visible)
      (by decide) rfl (by decide) false,
    h.restored he hkeys hhas (by decide) hlookup (by decide) false,
    h.restored he hkeys hhasNot (by decide) hlookupNot (by decide) false]
  rfl

theorem Selector.restored_of_filters (s : Selector) (he : Faithful e) {room : Nat}
    (hpath : s.framePath ≠ some [])
    (hfilters : ∀ f ∈ s.filters,
      Restored e (Filters.ofNodeWith? (ofNodeWithin? room)) Filters.toJson f) :
    Restored e (ofNodeWithin? (room + 1)) toJson s := by
  obtain ⟨hobject, -, hlookup⟩ := s.members_spec
  have hkeys := s.keys_nodup
  refine ⟨by rw [hobject]; simp, s.settles.strip.isFinite, ?_⟩
  obtain ⟨r, -, hrecord, h⟩ := he.holds_strip fieldNames (by decide) hobject hkeys
  change ((e s.toJson.strip).record? fieldNames).bind _ = _
  obtain ⟨page, framePath, element, filters, nth⟩ := s
  rw [hrecord, Option.bind_some,
    h.restored he hkeys (fun t _ => he.textField t) (o := page) (by decide) rfl (by decide) false,
    h.list he hkeys (fun _ _ r _ => r.restored he) (by decide) rfl (by decide) hpath false,
    h.restored he hkeys (fun v _ => v.restored he) (o := element) (by decide) rfl (by decide) false,
    h.restored he hkeys hfilters (by decide) hlookup (by decide) false,
    h.restored he hkeys (fun n _ => he.int32Field n) (o := nth) (by decide) rfl (by decide) false]
  rfl

theorem Selector.restored_within (he : Faithful e) (room : Nat) (s : Selector)
    (htidy : s.isTidy = true)
    (hroom : (e s.toJson.strip).height ≤ room) : Restored e (ofNodeWithin? room) toJson s := by
  induction room generalizing s with
  | zero =>
    have := he.height_pos s.toJson.strip
    omega
  | succ room ih =>
    obtain ⟨hpath, hinner⟩ := s.isTidy_iff.mp htidy
    refine s.restored_of_filters he hpath fun f hf => ?_
    obtain ⟨htidyHas, htidyHasNot⟩ := f.isTidy_iff.mp (hinner f hf)
    have hlower := Selector.height_filters he hf
    refine f.restored he (fun t ht => ih t (htidyHas t ht) ?_) fun t ht =>
      ih t (htidyHasNot t ht) ?_
    · have := Filters.height_inner he (.inl ht)
      omega
    · have := Filters.height_inner he (.inr ht)
      omega

/-- A tidy selector is read back as it was. -/
theorem Selector.restored (s : Selector) (he : Faithful e) (htidy : s.isTidy = true) :
    Restored e ofNode? toJson s :=
  have h := restored_within he _ s htidy (Nat.le_refl _)
  ⟨h.written, h.finite, h.read⟩

end Scenarist

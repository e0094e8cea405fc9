import Scenarist.Proofs.Json.Texts
import Scenarist.Proofs.Step.Restored

/-! # The texts of steps

A change of texts in what a step is written as is a change of the step's own texts. The words that
name kinds and choices must stay, and no text may become empty.
-/

namespace Scenarist

/-- The words that documents of steps are written with. -/
def fixedWords : List Text :=
  ["mixed", "navigation", "popup", "download", "dialog"].map String.toList ++
    MouseButton.all.map MouseButton.name ++
    Modifier.all.map Modifier.name

/-- The change leaves the words of documents alone, and makes no text empty. -/
structure KeepsWords (f : Text → Text) : Prop where
  word : ∀ t ∈ fixedWords, f t = t
  empty : ∀ t, f t = [] ↔ t = []

variable {f : Text → Text}

/-! ## Matchers, elements and frames -/

namespace TextMatcher

def mapTexts (f : Text → Text) : TextMatcher → TextMatcher
  | .plain t => .plain (f t)
  | .exact t caseSensitive => .exact (f t) caseSensitive
  | .regex p flags => .regex (f p) (f flags)

theorem toJson_mapTexts (hf : KeepsWords f) (m : TextMatcher) :
    (m.mapTexts f).toJson = m.toJson.mapTexts f := by
  cases m with
  | plain t => rfl
  | exact t b => rfl
  | regex p flags =>
    by_cases hflags : flags = []
    · simp [mapTexts, toJson, Json.mapTexts, Json.mapTextsMembers, hflags, (hf.empty []).mpr rfl]
    · have hne : f flags ≠ [] := fun h => hflags ((hf.empty flags).mp h)
      simp [mapTexts, toJson, Json.mapTexts, Json.mapTextsMembers, hflags, hne]

end TextMatcher

theorem AriaState.toJson_mapTexts (hf : KeepsWords f) (s : AriaState) :
    s.toJson = s.toJson.mapTexts f := by
  cases s with
  | mixed => exact congrArg Json.string (hf.word "mixed" (by decide)).symm
  | on => rfl
  | off => rfl

namespace Element

def mapTexts (f : Text → Text) : Element → Element
  | .role r => .role { r with role := f r.role, name := r.name.map (TextMatcher.mapTexts f) }
  | .testId t => .testId (f t)
  | .css t => .css (f t)
  | .xpath t => .xpath (f t)
  | .text m => .text (m.mapTexts f)
  | .label m => .label (m.mapTexts f)
  | .placeholder m => .placeholder (m.mapTexts f)
  | .alt m => .alt (m.mapTexts f)
  | .title m => .title (m.mapTexts f)

theorem toJson_mapTexts (hf : KeepsWords f) (v : Element) :
    (v.mapTexts f).toJson = v.toJson.mapTexts f := by
  have hmatcher : ∀ (k : Text) (m : TextMatcher),
      Json.object [(k, (m.mapTexts f).toJson)] = (Json.object [(k, m.toJson)]).mapTexts f :=
        fun k m => by
    rw [m.toJson_mapTexts hf]
    rfl
  have hstate : ∀ o : Option AriaState,
      Json.orNull AriaState.toJson o = (Json.orNull AriaState.toJson o).mapTexts f := fun o => by
    cases o with
    | none => rfl
    | some s => exact s.toJson_mapTexts hf
  cases v with
  | role r =>
    have hname : Json.orNull TextMatcher.toJson (r.name.map (TextMatcher.mapTexts f)) =
        (Json.orNull TextMatcher.toJson r.name).mapTexts f :=
      Json.mapTexts_orNull fun m _ => m.toJson_mapTexts hf
    have hhidden : Json.orNull Json.bool r.includeHidden =
        (Json.orNull Json.bool r.includeHidden).mapTexts f := by
      cases r.includeHidden <;> rfl
    have hlevel : Json.orNull (fun n => Json.number (.ofUInt32 n)) r.level =
        (Json.orNull (fun n => Json.number (.ofUInt32 n)) r.level).mapTexts f := by
      cases r.level <;> rfl
    simp only [mapTexts, toJson, RoleElement.toJson, Json.mapTexts, Json.mapTextsMembers, hname,
      ← hstate, ← hhidden, ← hlevel]
  | testId t => rfl
  | css t => rfl
  | xpath t => rfl
  | text m => exact hmatcher _ m
  | label m => exact hmatcher _ m
  | placeholder m => exact hmatcher _ m
  | alt m => exact hmatcher _ m
  | title m => exact hmatcher _ m

end Element

namespace FrameRef

def mapTexts (f : Text → Text) : FrameRef → FrameRef
  | .name t kind => .name (f t) (kind.map f)
  | .url t kind => .url (f t) (kind.map f)
  | .urlContains t kind => .urlContains (f t) (kind.map f)
  | .index n kind => .index n (kind.map f)
  | .selector raw => .selector (f raw)

theorem toJson_mapTexts (r : FrameRef) : (r.mapTexts f).toJson = r.toJson.mapTexts f := by
  cases r with
  | name t kind => cases kind <;> rfl
  | url t kind => cases kind <;> rfl
  | urlContains t kind => cases kind <;> rfl
  | index n kind => cases kind <;> rfl
  | selector raw => rfl

end FrameRef

/-! ## Selectors -/

mutual

def Selector.mapTexts (f : Text → Text) : Selector → Selector
  | ⟨page, framePath, element, filters, nth⟩ =>
    ⟨page.map f, framePath.map (List.map (FrameRef.mapTexts f)), element.map (Element.mapTexts f),
      filtersMapTexts f filters, nth⟩

def filtersMapTexts (f : Text → Text) : Option Filters → Option Filters
  | none => none
  | some x => some (Filters.mapTexts f x)

def Filters.mapTexts (f : Text → Text) : Filters → Filters
  | ⟨hasText, hasNotText, visible, has, hasNot⟩ =>
    ⟨hasText.map (TextMatcher.mapTexts f), hasNotText.map (TextMatcher.mapTexts f), visible,
      innerMapTexts f has, innerMapTexts f hasNot⟩

def innerMapTexts (f : Text → Text) : Option Selector → Option Selector
  | none => none
  | some s => some (Selector.mapTexts f s)

end

theorem textJson_mapTexts (o : Option Text) :
    Json.orNull Json.string (o.map f) = (Json.orNull Json.string o).mapTexts f := by
  cases o <;> rfl

theorem boolJson_mapTexts (o : Option Bool) :
    Json.orNull Json.bool o = (Json.orNull Json.bool o).mapTexts f := by
  cases o <;> rfl

mutual

theorem Selector.toJson_mapTexts (hf : KeepsWords f) :
    ∀ s : Selector, (s.mapTexts f).toJson = s.toJson.mapTexts f
  | ⟨page, framePath, element, filters, nth⟩ => by
    have hpath : Json.orNull (fun path => Json.array (path.map FrameRef.toJson))
        (framePath.map (List.map (FrameRef.mapTexts f))) =
        (Json.orNull (fun path => Json.array (path.map FrameRef.toJson)) framePath).mapTexts f := by
      refine Json.mapTexts_orNull fun path _ => ?_
      simp [Json.mapTexts, Json.mapTextsItems_eq, FrameRef.toJson_mapTexts]
    have helement : Json.orNull Element.toJson (element.map (Element.mapTexts f)) =
        (Json.orNull Element.toJson element).mapTexts f :=
      Json.mapTexts_orNull fun v _ => v.toJson_mapTexts hf
    have hnth : Json.orNull (fun n => Json.number (.ofInt32 n)) nth =
        (Json.orNull (fun n => Json.number (.ofInt32 n)) nth).mapTexts f := by
      cases nth <;> rfl
    simp only [Selector.mapTexts, Selector.toJson, Json.mapTexts, Json.mapTextsMembers,
      textJson_mapTexts, hpath, helement, filtersJson_mapTexts hf filters, ← hnth]

theorem filtersJson_mapTexts (hf : KeepsWords f) :
    ∀ o : Option Filters, filtersJson (filtersMapTexts f o) = (filtersJson o).mapTexts f
  | none => rfl
  | some x => Filters.toJson_mapTexts hf x

theorem Filters.toJson_mapTexts (hf : KeepsWords f) :
    ∀ x : Filters, (x.mapTexts f).toJson = x.toJson.mapTexts f
  | ⟨hasText, hasNotText, visible, has, hasNot⟩ => by
    have hmatcher :
        ∀ o : Option TextMatcher, Json.orNull TextMatcher.toJson (o.map (TextMatcher.mapTexts f)) =
        (Json.orNull TextMatcher.toJson o).mapTexts f :=
      fun o => Json.mapTexts_orNull fun m _ => m.toJson_mapTexts hf
    simp only [Filters.mapTexts, Filters.toJson, Json.mapTexts, Json.mapTextsMembers, hmatcher,
      innerJson_mapTexts hf has, innerJson_mapTexts hf hasNot, ← boolJson_mapTexts]

theorem innerJson_mapTexts (hf : KeepsWords f) :
    ∀ o : Option Selector, innerJson (innerMapTexts f o) = (innerJson o).mapTexts f
  | none => rfl
  | some s => Selector.toJson_mapTexts hf s

end

mutual

theorem Selector.isTidy_mapTexts : ∀ s : Selector, (s.mapTexts f).isTidy = s.isTidy
  | ⟨page, framePath, element, filters, nth⟩ => by
    rw [Selector.mapTexts, Selector.isTidy, Selector.isTidy, filtersTidy_mapTexts filters]
    cases framePath with
    | none => rfl
    | some path => cases path <;> rfl

theorem filtersTidy_mapTexts :
    ∀ o : Option Filters, filtersTidy (filtersMapTexts f o) = filtersTidy o
  | none => rfl
  | some x => Filters.isTidy_mapTexts x

theorem Filters.isTidy_mapTexts : ∀ x : Filters, (x.mapTexts f).isTidy = x.isTidy
  | ⟨hasText, hasNotText, visible, has, hasNot⟩ => by
    rw [Filters.mapTexts, Filters.isTidy, Filters.isTidy, innerTidy_mapTexts has,
      innerTidy_mapTexts hasNot]

theorem innerTidy_mapTexts : ∀ o : Option Selector, innerTidy (innerMapTexts f o) = innerTidy o
  | none => rfl
  | some s => Selector.isTidy_mapTexts s

end

/-! ## Steps -/

namespace Expectation

def mapTexts (f : Text → Text) : Expectation → Expectation
  | .navigation url part => .navigation (url.map f) (part.map f)
  | .popup page => .popup (page.map f)
  | .download => .download
  | .dialog kind message accepted => .dialog (kind.map f) (message.map f) accepted

theorem toJson_mapTexts (hf : KeepsWords f) (x : Expectation) :
    (x.mapTexts f).toJson = x.toJson.mapTexts f := by
  cases x with
  | navigation url part =>
    simp only [mapTexts, toJson, Json.mapTexts, Json.mapTextsMembers, textJson_mapTexts,
      hf.word "navigation" (by decide)]
  | popup page =>
    simp only [mapTexts, toJson, Json.mapTexts, Json.mapTextsMembers, textJson_mapTexts,
      hf.word "popup" (by decide)]
  | download =>
    simp only [mapTexts, toJson, Json.mapTexts, Json.mapTextsMembers,
      hf.word "download" (by decide)]
  | dialog kind message accepted =>
    simp only [mapTexts, toJson, Json.mapTexts, Json.mapTextsMembers, textJson_mapTexts,
      ← boolJson_mapTexts, hf.word "dialog" (by decide)]

end Expectation

theorem Json.isCanonical_mapTexts {v : Json} (h : IsCanonical v) : IsCanonical (v.mapTexts f) := by
  induction h with
  | null => exact .null
  | bool b => exact .bool b
  | number n h => exact .number n h
  | string t => exact .string _
  | array items _ ih =>
    rw [mapTexts, mapTextsItems_eq]
    refine .array _ fun v hv => ?_
    obtain ⟨u, hu, rfl⟩ := List.mem_map.mp hv
    exact ih u hu
  | object members hkeys _ ih =>
    rw [mapTexts, mapTextsMembers_eq]
    refine .object _ (hkeys.map fun _ => rfl) fun m hm => ?_
    obtain ⟨u, hu, rfl⟩ := List.mem_map.mp hm
    exact ih u hu

namespace Step

/-- The step with `f` of its texts. Its kind stays. -/
def mapTexts (f : Text → Text) (s : Step) : Step :=
  { s with
    url := s.url.map f
    selector := s.selector.map (Selector.mapTexts f)
    text := s.text.map f
    key := s.key.map f
    value := s.value.map f
    options := s.options.map (List.map f)
    expectations := s.expectations.map (List.map (Expectation.mapTexts f))
    debug := s.debug.map (Json.mapTexts f) }

theorem IsTidy.mapTexts {s : Step} (h : s.IsTidy) : (s.mapTexts f).IsTidy where
  selector t ht := by
    obtain ⟨u, hu, rfl⟩ := Option.map_eq_some_iff.mp ht
    rw [Selector.isTidy_mapTexts]
    exact h.selector u hu
  modifiers := h.modifiers
  debug v hv := by
    obtain ⟨u, hu, rfl⟩ := Option.map_eq_some_iff.mp hv
    exact Json.isCanonical_mapTexts (h.debug u hu)

theorem listJson_mapTexts {α : Type} {g : α → Json} {h : α → α} {o : Option (List α)}
    (hg : ∀ a, g (h a) = (g a).mapTexts f) :
    Json.orNull (listJson g) (o.map (List.map h)) = (Json.orNull (listJson g) o).mapTexts f := by
  refine Json.mapTexts_orNull fun l _ => ?_
  simp [listJson, Json.mapTexts, Json.mapTextsItems_eq, hg]

theorem jsonWith_mapTexts (hf : KeepsWords f) (s : Step) (tag : Text) :
    (s.mapTexts f).jsonWith (f tag) = (s.jsonWith tag).mapTexts f := by
  have hselector : Json.orNull Selector.toJson (s.selector.map (Selector.mapTexts f)) =
      (Json.orNull Selector.toJson s.selector).mapTexts f :=
    Json.mapTexts_orNull fun t _ => t.toJson_mapTexts hf
  have hoptions : Json.orNull (listJson optionJson) (s.options.map (List.map f)) =
      (Json.orNull (listJson optionJson) s.options).mapTexts f := listJson_mapTexts fun t => rfl
  have hbutton : Json.orNull MouseButton.toJson s.button =
      (Json.orNull MouseButton.toJson s.button).mapTexts f := by
    cases s.button with
    | none => rfl
    | some b =>
      have hword := hf.word b.name (by cases b <;> decide)
      exact congrArg Json.string hword.symm
  have hmodifiers : Json.orNull (listJson Modifier.toJson) s.modifiers =
      (Json.orNull (listJson Modifier.toJson) s.modifiers).mapTexts f := by
    rw [← listJson_mapTexts (h := id)]
    · simp
    · exact fun m => congrArg Json.string (hf.word m.name (by cases m <;> decide)).symm
  have hcount : Json.orNull (fun n => Json.number (.ofUInt32 n)) s.clickCount =
      (Json.orNull (fun n => Json.number (.ofUInt32 n)) s.clickCount).mapTexts f := by
    cases s.clickCount <;> rfl
  have hexpectations :
      Json.orNull (listJson Expectation.toJson)
        (s.expectations.map (List.map (Expectation.mapTexts f))) =
      (Json.orNull (listJson Expectation.toJson) s.expectations).mapTexts f :=
    listJson_mapTexts fun x => x.toJson_mapTexts hf
  have hdebug :
      Json.orNull id (s.debug.map (Json.mapTexts f)) = (Json.orNull id s.debug).mapTexts f :=
    Json.mapTexts_orNull fun v _ => rfl
  simp only [jsonWith, mapTexts, toJson, Json.membersOf, List.tail_cons, Json.mapTexts,
    Json.mapTextsMembers,
    textJson_mapTexts, ← boolJson_mapTexts, hselector, hoptions, ← hbutton, ← hmodifiers, ← hcount,
    hexpectations, hdebug]

end Step

end Scenarist

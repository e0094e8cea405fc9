import Scenarist.Proofs.Yaml.Legible
import Scenarist.Proofs.Yaml.Strip

/-! # The texts of values

What is read of a document differs from what was written in its strings alone. A value is read as it
is when each of its strings and keys is.
-/

namespace Scenarist.Json

open Yaml

mutual

/-- The value with `f` of each of its strings. Keys stay. -/
def mapTexts (f : Text → Text) : Json → Json
  | .string t => .string (f t)
  | .array items => .array (mapTextsItems f items)
  | .object members => .object (mapTextsMembers f members)
  | .null => .null
  | .bool b => .bool b
  | .number n => .number n

def mapTextsItems (f : Text → Text) : List Json → List Json
  | [] => []
  | v :: r => mapTexts f v :: mapTextsItems f r

def mapTextsMembers (f : Text → Text) : List (Text × Json) → List (Text × Json)
  | [] => []
  | (k, v) :: r => (k, mapTexts f v) :: mapTextsMembers f r

end

variable {f : Text → Text}

theorem mapTextsItems_eq (f : Text → Text) (items : List Json) :
    mapTextsItems f items = items.map (mapTexts f) := by
  induction items with
  | nil => rfl
  | cons v r ih => rw [mapTextsItems, ih, List.map_cons]

theorem mapTextsMembers_eq (f : Text → Text) (members : List (Text × Json)) :
    mapTextsMembers f members = members.map fun m => (m.1, mapTexts f m.2) := by
  induction members with
  | nil => rfl
  | cons m r ih => rw [mapTextsMembers, ih, List.map_cons]

theorem mapTexts_id (v : Json) : v.mapTexts id = v := by
  induction v using Json.induct with
  | array items ih =>
    rw [mapTexts, mapTextsItems_eq, List.map_congr_left ih, List.map_id']
  | object members ih =>
    rw [mapTexts, mapTextsMembers_eq, List.map_congr_left (g := id) fun m hm =>
      by rw [ih m hm]; rfl, List.map_id]
  | _ => rfl

theorem IsFinite.mapTexts {v : Json} (h : IsFinite v) (f : Text → Text) :
    IsFinite (v.mapTexts f) := by
  induction h with
  | null => exact .null
  | bool b => exact .bool b
  | number n h => exact .number n h
  | string t => exact .string (f t)
  | array items _ ih =>
    rw [Json.mapTexts, mapTextsItems_eq]
    refine .array _ fun v hv => ?_
    obtain ⟨u, hu, rfl⟩ := List.mem_map.mp hv
    exact ih u hu
  | object members _ ih =>
    rw [Json.mapTexts, mapTextsMembers_eq]
    refine .object _ fun m hm => ?_
    obtain ⟨u, hu, rfl⟩ := List.mem_map.mp hm
    exact ih u hu

theorem mapTexts_orNull {α : Type} {g : α → Json} {h : α → α} {o : Option α}
    (hg : ∀ a ∈ o, g (h a) = (g a).mapTexts f) : orNull g (o.map h) = (orNull g o).mapTexts f := by
  cases o with
  | none => rfl
  | some a => exact hg a rfl

theorem mapTexts_ne_null {v : Json} : v.mapTexts f = .null ↔ v = .null := by
  cases v <;> simp [mapTexts]

theorem isDefault_mapTexts (key : Text) (v : Json) :
    isDefault key (.ofJson (v.mapTexts f)) = isDefault key (.ofJson v) := by
  cases v with
  | array items => cases items <;> rfl
  | _ => rfl

theorem strip_mapTexts (v : Json) : (v.mapTexts f).strip = v.strip.mapTexts f := by
  induction v using Json.induct with
  | null => rfl
  | bool b => rfl
  | number n => rfl
  | string t => rfl
  | array items ih =>
    simp only [mapTexts, strip, mapTextsItems_eq, stripItems_eq, List.map_map]
    congr 1
    exact List.map_congr_left ih
  | object members ih =>
    simp only [mapTexts, strip, mapTextsMembers_eq, stripMembers_eq, List.filterMap_map,
      List.map_filterMap]
    congr 1
    refine List.filterMap_congr fun m hm => ?_
    simp only [Function.comp, keep?, mapTexts_ne_null, isDefault_mapTexts, ih m hm]
    split
    · rfl
    split
    · rfl
    split <;> rfl

/-! ## Values that are read back -/

/-- Each string and each key is read back. -/
inductive IsLegible : Json → Prop where
  | null : IsLegible .null
  | bool (b : Bool) : IsLegible (.bool b)
  | number (n : Number) : IsLegible (.number n)
  | string (t : Text) (h : Yaml.isLegible t = true) : IsLegible (.string t)
  | array (items : List Json) (h : ∀ v ∈ items, IsLegible v) : IsLegible (.array items)
  | object (members : List (Text × Json)) (hkeys : ∀ m ∈ members, isKeyLegible m.1 = true)
    (h : ∀ m ∈ members, IsLegible m.2) : IsLegible (.object members)

/-- What is read of a text, or the text itself when nothing is. -/
def rereadOrSame (t : Text) : Text := (reread? t).getD t

theorem rereadOrSame_eq_self {t : Text} (h : Yaml.isLegible t = true) : rereadOrSame t = t := by
  rw [rereadOrSame, reread?_eq_self.mpr h]
  rfl

theorem rereadValue?_eq {v w : Json} (h : rereadValue? v = some w) :
    w = v.mapTexts rereadOrSame := by
  induction v using Json.induct generalizing w with
  | null => exact (Option.some.inj h).symm
  | bool b => exact (Option.some.inj h).symm
  | number n => exact (Option.some.inj h).symm
  | string t =>
    obtain ⟨u, hu, rfl⟩ := Option.map_eq_some_iff.mp h
    rw [mapTexts, rereadOrSame, hu]
    rfl
  | array items ih =>
    obtain ⟨l, hl, rfl⟩ := Option.map_eq_some_iff.mp h
    rw [mapTexts]
    congr 1
    clear h
    induction items generalizing l with
    | nil => exact (Option.some.inj hl).symm
    | cons v r ihr =>
      obtain ⟨u, hu, hrest⟩ := Option.bind_eq_some_iff.mp hl
      obtain ⟨l', hl', rfl⟩ := Option.map_eq_some_iff.mp hrest
      rw [mapTextsItems, ← ih v (by simp) hu, ← ihr (fun u hu => ih u (by simp [hu])) l' hl']
  | object members ih =>
    obtain ⟨l, hl, rfl⟩ := Option.map_eq_some_iff.mp h
    rw [mapTexts]
    congr 1
    clear h
    induction members generalizing l with
    | nil => exact (Option.some.inj hl).symm
    | cons m r ihr =>
      obtain ⟨k, v⟩ := m
      rw [rereadMembers?] at hl
      split at hl
      · obtain ⟨u, hu, hrest⟩ := Option.bind_eq_some_iff.mp hl
        obtain ⟨l', hl', rfl⟩ := Option.map_eq_some_iff.mp hrest
        rw [mapTextsMembers, ← ih (k, v) (by simp) hu,
          ← ihr (fun u hu => ih u (by simp [hu])) l' hl']
      · exact absurd hl (by simp)

theorem rereadItems?_eq_self {items : List Json}
    (ih : ∀ v ∈ items, rereadValue? v = some v ↔ IsLegible v) :
    rereadItems? items = some items ↔ ∀ v ∈ items, IsLegible v := by
  induction items with
  | nil => simp [rereadItems?]
  | cons v r ihr =>
    have ihr := ihr fun u hu => ih u (by simp [hu])
    have hv := ih v (by simp)
    rw [List.forall_mem_cons, ← hv, ← ihr, rereadItems?]
    constructor
    · intro h
      obtain ⟨u, hu, hrest⟩ := Option.bind_eq_some_iff.mp h
      obtain ⟨l, hl, heq⟩ := Option.map_eq_some_iff.mp hrest
      obtain ⟨rfl, rfl⟩ := List.cons.inj heq
      exact ⟨hu, hl⟩
    · rintro ⟨hu, hl⟩
      rw [hu, hl]
      rfl

theorem rereadMembers?_eq_self {members : List (Text × Json)}
    (ih : ∀ m ∈ members, rereadValue? m.2 = some m.2 ↔ IsLegible m.2) :
    rereadMembers? members = some members ↔
      (∀ m ∈ members, isKeyLegible m.1 = true) ∧ ∀ m ∈ members, IsLegible m.2 := by
  induction members with
  | nil => simp [rereadMembers?]
  | cons m r ihr =>
    obtain ⟨k, v⟩ := m
    have ihr := ihr fun u hu => ih u (by simp [hu])
    have hv := ih (k, v) (by simp)
    rw [List.forall_mem_cons, List.forall_mem_cons, ← hv, and_and_and_comm, ← ihr, rereadMembers?]
    constructor
    · intro h
      split at h
      · rename_i hkey
        obtain ⟨u, hu, hrest⟩ := Option.bind_eq_some_iff.mp h
        obtain ⟨l, hl, heq⟩ := Option.map_eq_some_iff.mp hrest
        obtain ⟨hmember, rfl⟩ := List.cons.inj heq
        obtain ⟨-, rfl⟩ := Prod.mk.inj hmember
        exact ⟨⟨hkey, hu⟩, hl⟩
      · exact absurd h (by simp)
    · rintro ⟨⟨hkey, hu⟩, hl⟩
      rw [if_pos hkey, hu, hl]
      rfl

theorem rereadValue?_eq_self {v : Json} : rereadValue? v = some v ↔ IsLegible v := by
  induction v using Json.induct with
  | null => exact ⟨fun _ => .null, fun _ => rfl⟩
  | bool b => exact ⟨fun _ => .bool b, fun _ => rfl⟩
  | number n => exact ⟨fun _ => .number n, fun _ => rfl⟩
  | string t =>
    constructor
    · intro h
      obtain ⟨u, hu, heq⟩ := Option.map_eq_some_iff.mp h
      obtain rfl := Json.string.inj heq
      exact .string _ (reread?_eq_self.mp hu)
    · intro h
      cases h with
      | string _ h =>
        rw [rereadValue?, reread?_eq_self.mpr h]
        rfl
  | array items ih =>
    have hitems := rereadItems?_eq_self ih
    constructor
    · intro h
      obtain ⟨l, hl, heq⟩ := Option.map_eq_some_iff.mp h
      obtain rfl := Json.array.inj heq
      exact .array _ (hitems.mp hl)
    · intro h
      cases h with
      | array _ h =>
        rw [rereadValue?, hitems.mpr h]
        rfl
  | object members ih =>
    have hmembers := rereadMembers?_eq_self ih
    constructor
    · intro h
      obtain ⟨l, hl, heq⟩ := Option.map_eq_some_iff.mp h
      obtain rfl := Json.object.inj heq
      obtain ⟨hkeys, hvalues⟩ := hmembers.mp hl
      exact .object _ hkeys hvalues
    · intro h
      cases h with
      | object _ hkeys h =>
        rw [rereadValue?, hmembers.mpr ⟨hkeys, h⟩]
        rfl

end Scenarist.Json

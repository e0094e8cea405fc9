import Scenarist.Proofs.Yaml.Strip

/-! # Fields read back

A record is written as an object without its defaults. Each of its fields is read back from there on
its own: one that is set from its value, and one that is not set from its absence.
-/

namespace Scenarist.Yaml

open Node

variable {e : Json → Node} {α : Type}

/-! ## Records -/

/-- The record has the fields that an object has. -/
structure Holds (e : Json → Node) (names : List Text) (members : List (Text × Json)) (r : Record) :
  Prop where
  mapped : r.listed = false
  lookup : ∀ name, name.isOneOf names = true → r.fields.lookup name = (members.lookup name).map e

theorem fields?_eq {names : List Text} (hnames : Text.isOneOf [] names = false)
    {keyNode : Text → Node}
    (hkey : ∀ k, fieldName? names (keyNode k) = some (if k.isOneOf names then k else []))
    {members : List (Text × Json)} (h : (members.map Prod.fst).Nodup) :
    ∃ fields, fields? names (members.map fun m => (keyNode m.1, e m.2)) = some fields ∧
      ∀ name, name.isOneOf names = true → fields.lookup name = (members.lookup name).map e := by
  induction members with
  | nil => exact ⟨[], rfl, fun _ _ => rfl⟩
  | cons m r ih =>
    obtain ⟨k, v⟩ := m
    obtain ⟨hfresh, hrest⟩ := List.nodup_cons.mp h
    obtain ⟨fields, hfields, hlookup⟩ := ih hrest
    rw [List.map_cons, fields?]
    simp only [hkey, hfields, Option.bind_eq_bind, Option.bind_some]
    by_cases hname : k.isOneOf names = true
    · have hne : k ≠ [] := by
        rintro rfl
        exact absurd hname (by simp [hnames])
      have hnone : (fields.lookup k).isSome = false := by
        rw [hlookup k hname, Json.lookup_eq_none hfresh]
        rfl
      rw [if_pos hname, if_neg hne, hnone, if_neg Bool.false_ne_true]
      refine ⟨_, rfl, fun name hname' => ?_⟩
      rw [List.lookup_cons, List.lookup_cons]
      split
      · rfl
      · exact hlookup name hname'
    · rw [if_neg hname, if_pos rfl]
      refine ⟨fields, rfl, fun name hname' => ?_⟩
      have hother : (name == k) = false := by
        refine beq_false_of_ne ?_
        rintro rfl
        exact hname hname'
      rw [List.lookup_cons, hother]
      exact hlookup name hname'

theorem Faithful.holds (he : Faithful e) (names : List Text)
    (hnames : Text.isOneOf [] names = false)
    {members : List (Text × Json)} (h : (members.map Prod.fst).Nodup) :
    ∃ r, (e (.object members)).mapped? names = some r ∧
      (e (.object members)).record? names = some r ∧
      Holds e names members r := by
  obtain ⟨keyNode, hentries, hkey⟩ := he.fields names members
  obtain ⟨fields, hfields, hlookup⟩ := fields?_eq (e := e) hnames hkey h
  have hmapped : (e (.object members)).mapped? names = some ⟨fields, false⟩ := by
    rw [mapped?, hentries]
    change (fields? names _).bind _ = _
    rw [hfields]
    rfl
  exact ⟨_, hmapped, (he.record names members).trans hmapped, rfl, hlookup⟩

/-- What is left of an object without its defaults is read as a record of what is left of its
fields. -/
theorem Faithful.holds_strip (he : Faithful e) (names : List Text)
    (hnames : Text.isOneOf [] names = false) {v : Json}
    (hv : v = .object v.membersOf) (h : (v.membersOf.map Prod.fst).Nodup) :
    ∃ r, (e v.strip).mapped? names = some r ∧ (e v.strip).record? names = some r ∧
      Holds e names (Json.stripMembers v.membersOf) r := by
  rw [hv, Json.strip]
  exact he.holds names hnames ((Json.keys_stripMembers v.membersOf).nodup h)

theorem Faithful.height_field (he : Faithful e) {v w u : Json} {name : Text}
    (hv : v = .object v.membersOf)
    (hkeys : (v.membersOf.map Prod.fst).Nodup) (hlookup : v.membersOf.lookup name = some w)
    (hkeep : Json.keep? name w = some u) : (e u).height < (e v.strip).height := by
  have hfound : (Json.stripMembers v.membersOf).lookup name = some u := by
    rw [Json.lookup_stripMembers hkeys, hlookup]
    exact hkeep
  obtain ⟨l, r, heq, -⟩ := List.lookup_eq_some_iff.mp hfound
  have hmem : (name, u) ∈ Json.stripMembers v.membersOf := by
    rw [heq]
    simp
  rw [hv, Json.strip]
  exact he.height hmem

/-! ## Values -/

/-- The value is read back from what is left of it without its defaults. -/
structure Restored (e : Json → Node) (f : Node → Option α) (g : α → Json) (a : α) : Prop where
  written : g a ≠ .null
  finite : Json.IsFinite (g a).strip
  read : f (e (g a).strip) = some a

theorem Faithful.list (he : Faithful e) {f : Node → Option α} {g : α → Json} {l : List α}
    (h : ∀ a ∈ l, Restored e f g a) : Restored e (list? f) (fun l => .array (l.map g)) l := by
  refine ⟨by simp, ?_, ?_⟩
  · rw [Json.strip, Json.stripItems_eq, List.map_map]
    refine .array _ fun v hv => ?_
    obtain ⟨a, ha, rfl⟩ := List.mem_map.mp hv
    exact (h a ha).finite
  · rw [Json.strip, Json.stripItems_eq, List.map_map, list?, he.items, Option.bind_some,
      List.map_map, List.mapM_map]
    exact mapM_of_some_self fun a ha => (h a ha).read

section Record

variable {names : List Text} {members : List (Text × Json)} {r : Record} {name : Text}
    {f : Node → Option α}
  {g : α → Json}

theorem Holds.required (h : Holds e names (Json.stripMembers members) r)
    (hname : name.isOneOf names = true)
    (hkeys : (members.map Prod.fst).Nodup) {a : α} (hlookup : members.lookup name = some (g a))
    (hordinary : name ≠ "debug" ∧ name ≠ "modifiers" ∧ name ≠ "framePath") (ha : Restored e f g a) :
    r.required? name f = some a := by
  rw [Record.required?, h.lookup name hname, Json.lookup_stripMembers hkeys, hlookup,
    Option.bind_some, Json.keep?_ordinary hordinary ha.written]
  exact ha.read

theorem Holds.missing (h : Holds e names (Json.stripMembers members) r)
    (hname : name.isOneOf names = true)
    (hkeys : (members.map Prod.fst).Nodup) (hlookup : members.lookup name = none) (fallback : α) :
    r.defaulted? name fallback f = some fallback := by
  rw [Record.defaulted?, h.lookup name hname, Json.lookup_stripMembers hkeys, hlookup]
  rfl

theorem Holds.defaulted (h : Holds e names (Json.stripMembers members) r)
    (hname : name.isOneOf names = true)
    (hkeys : (members.map Prod.fst).Nodup) {v : Json} (hlookup : members.lookup name = some v)
    (hordinary : name ≠ "debug" ∧ name ≠ "modifiers" ∧ name ≠ "framePath") (hv : v ≠ .null)
    (fallback : α) :
    r.defaulted? name fallback f = f (e v.strip) := by
  rw [Record.defaulted?, h.lookup name hname, Json.lookup_stripMembers hkeys, hlookup,
    Option.bind_some, Json.keep?_ordinary hordinary hv]
  rfl

theorem Holds.optional (h : Holds e names (Json.stripMembers members) r)
    (hname : name.isOneOf names = true)
    (hkeys : (members.map Prod.fst).Nodup) {o : Option α}
    (hlookup : members.lookup name = some (.orNull g o))
    {w : α → Json} (hkeep : ∀ a ∈ o, Json.keep? name (g a) = some (w a)) (he : Faithful e)
    (hw : ∀ a ∈ o, w a ≠ .null ∧ Json.IsFinite (w a) ∧ f (e (w a)) = some a) (hasDefault : Bool) :
    r.optional? name hasDefault f = some o := by
  rw [Record.optional?, h.lookup name hname, Json.lookup_stripMembers hkeys, hlookup,
    Option.bind_some]
  cases o with
  | none => simp [Json.orNull, Json.keep?, h.mapped]
  | some a =>
    obtain ⟨hne, hfinite, hread⟩ := hw a rfl
    rw [Json.orNull, hkeep a rfl, Option.map_some]
    dsimp only
    rw [he.absent hne hfinite]
    change (f (e (w a))).bind _ = _
    rw [hread]
    rfl

theorem strip_ne_null {v : Json} (h : v ≠ .null) : v.strip ≠ .null := by
  cases v <;> simp_all [Json.strip]

theorem Holds.kept (h : Holds e names (Json.stripMembers members) r) (he : Faithful e)
    (hkeys : (members.map Prod.fst).Nodup) {o : Option α} (ho : ∀ a ∈ o, Restored e f g a)
    (hname : name.isOneOf names = true) (hlookup : members.lookup name = some (.orNull g o))
    (hkeep : ∀ a ∈ o, Json.keep? name (g a) = some (g a).strip) (hasDefault : Bool) :
    r.optional? name hasDefault f = some o :=
  h.optional hname hkeys hlookup (w := fun a => (g a).strip) hkeep he
    (fun a ha => ⟨strip_ne_null (ho a ha).written, (ho a ha).finite, (ho a ha).read⟩) hasDefault

theorem Holds.restored (h : Holds e names (Json.stripMembers members) r) (he : Faithful e)
    (hkeys : (members.map Prod.fst).Nodup) {o : Option α} (ho : ∀ a ∈ o, Restored e f g a)
    (hname : name.isOneOf names = true) (hlookup : members.lookup name = some (.orNull g o))
    (hordinary : name ≠ "debug" ∧ name ≠ "modifiers" ∧ name ≠ "framePath") (hasDefault : Bool) :
    r.optional? name hasDefault f = some o :=
  h.kept he hkeys ho hname hlookup
    (fun a ha => Json.keep?_ordinary hordinary (ho a ha).written) hasDefault

theorem Holds.list (h : Holds e names (Json.stripMembers members) r) (he : Faithful e)
    (hkeys : (members.map Prod.fst).Nodup) {o : Option (List α)}
    (ho : ∀ l ∈ o, ∀ a ∈ l, Restored e f g a)
    (hname : name.isOneOf names = true)
    (hlookup : members.lookup name = some (.orNull (fun l => .array (l.map g)) o))
    (hdebug : name ≠ "debug") (hne : o ≠ some []) (hasDefault : Bool) :
    r.optional? name hasDefault (list? f) = some o := by
  refine h.kept he hkeys (fun l hl => he.list (ho l hl)) hname hlookup (fun l hl => ?_) hasDefault
  refine Json.keep?_list hdebug fun hnil => hne ?_
  rw [← List.map_eq_nil_iff.mp hnil]
  exact hl

end Record

end Scenarist.Yaml

import Mathlib.Data.Char
import Mathlib.Data.List.Lex
import Scenarist.Json.Basic
import Scenarist.Proofs.Yaml.Scalars

/-! # Canonical values

The values that readers give have finite numbers, and the members of every object stand in ascending
order of their keys. Putting the members in order changes nothing of them.
-/

namespace Scenarist.Json

open Yaml.Scalar (isFiniteNumber)

/-! ## Ascending keys -/

/-- The keys are in ascending order, each there once. -/
def IsAscending (members : List (Text × Json)) : Prop := members.Pairwise fun a b => a.1 < b.1

theorem mem_insert {key : Text} {v : Json} {members : List (Text × Json)} {e : Text × Json}
    (h : e ∈ insert key v members) : e = (key, v) ∨ e ∈ members := by
  induction members with
  | nil => exact .inl (List.mem_singleton.mp h)
  | cons head r ih =>
    rw [insert] at h
    split at h
    · rcases List.mem_cons.mp h with h | h
      · exact .inl h
      · exact .inr (List.mem_cons_of_mem _ h)
    split at h
    · rcases List.mem_cons.mp h with h | h
      · exact .inl h
      · exact .inr h
    · rcases List.mem_cons.mp h with h | h
      · exact .inr (h ▸ List.mem_cons_self)
      · exact (ih h).imp_right (List.mem_cons_of_mem _)

theorem IsAscending.insert {members : List (Text × Json)} (h : IsAscending members) (key : Text)
    (v : Json) :
    IsAscending (Json.insert key v members) := by
  induction members with
  | nil => exact List.pairwise_singleton _ _
  | cons head r ih =>
    obtain ⟨k, w⟩ := head
    obtain ⟨hhead, hrest⟩ := List.pairwise_cons.mp h
    rw [Json.insert]
    split
    · rename_i heq
      subst heq
      exact List.pairwise_cons.mpr ⟨hhead, hrest⟩
    split
    · rename_i hlt
      refine List.pairwise_cons.mpr ⟨fun e he => ?_, h⟩
      rcases List.mem_cons.mp he with rfl | he
      · exact hlt
      · exact lt_trans hlt (hhead e he)
    · rename_i hne hnlt
      refine List.pairwise_cons.mpr ⟨fun e he => ?_, ih hrest⟩
      rcases mem_insert he with rfl | he
      · exact lt_of_le_of_ne (not_lt.mp hnlt) (Ne.symm hne)
      · exact hhead e he

theorem insert_last {key : Text} {v : Json} {members : List (Text × Json)}
    (h : ∀ e ∈ members, e.1 < key) :
    insert key v members = members ++ [(key, v)] := by
  induction members with
  | nil => rfl
  | cons head r ih =>
    have hlt := h head (by simp)
    rw [insert, if_neg (ne_of_gt hlt), if_neg (not_lt.mpr hlt.le), ih fun e he =>
      h e (by simp [he])]
    rfl

theorem foldl_insert {acc members : List (Text × Json)} (h : IsAscending (acc ++ members)) :
    members.foldl (fun acc (k, v) => insert k v acc) acc = acc ++ members := by
  induction members generalizing acc with
  | nil => simp
  | cons head r ih =>
    obtain ⟨k, v⟩ := head
    have hlast : insert k v acc = acc ++ [(k, v)] :=
      insert_last fun e he => (List.pairwise_append.mp h).2.2 e he (k, v) (by simp)
    rw [List.foldl_cons]
    dsimp only
    rw [hlast, ih]
    · simp
    · simpa using h

theorem ofMembers_of_ascending {members : List (Text × Json)} (h : IsAscending members) :
    ofMembers members = .object members := by
  rw [ofMembers, foldl_insert (by simpa using h), List.nil_append]

theorem ofMembers_spec (members : List (Text × Json)) :
    ∃ sorted, ofMembers members = .object sorted ∧ IsAscending sorted ∧
      ∀ e ∈ sorted, e ∈ members := by
  have hfold : ∀ acc : List (Text × Json), IsAscending acc →
      IsAscending (members.foldl (fun acc (k, v) => insert k v acc) acc) ∧
        ∀ e ∈ members.foldl (fun acc (k, v) => insert k v acc) acc, e ∈ acc ∨ e ∈ members := by
    induction members with
    | nil => exact fun acc h => ⟨h, fun e he => .inl he⟩
    | cons head r ih =>
      intro acc h
      obtain ⟨hascending, hmem⟩ := ih _ (h.insert head.1 head.2)
      refine ⟨hascending, fun e he => ?_⟩
      rcases hmem e he with he | he
      · rcases mem_insert he with rfl | he
        · exact .inr List.mem_cons_self
        · exact .inl he
      · exact .inr (List.mem_cons_of_mem _ he)
  obtain ⟨hascending, hmem⟩ := hfold [] List.Pairwise.nil
  exact ⟨_, rfl, hascending, fun e he => (hmem e he).resolve_left (by simp)⟩

/-! ## What stands under a key -/

theorem lookup_cons (k : Text) (m : Text × Json) (members : List (Text × Json)) :
    (m :: members).lookup k = if k = m.1 then some m.2 else members.lookup k := by
  by_cases h : k = m.1
  · rw [if_pos h, h, List.lookup_cons, beq_self_eq_true]
  · rw [if_neg h, List.lookup_cons, beq_false_of_ne h]

theorem lookup_eq_none {k : Text} {members : List (Text × Json)} (h : k ∉ members.map Prod.fst) :
    members.lookup k = none := by
  rw [List.lookup_eq_none_iff]
  intro m hm
  rw [bne_iff_ne]
  rintro rfl
  exact h (List.mem_map.mpr ⟨m, hm, rfl⟩)

theorem lookup_insert (key : Text) (v : Json) (members : List (Text × Json)) (k : Text) :
    (insert key v members).lookup k = if k = key then some v else members.lookup k := by
  induction members with
  | nil => rw [insert, lookup_cons]
  | cons head r ih =>
    rw [insert]
    split
    · rename_i heq
      rw [lookup_cons, lookup_cons, ← heq]
      split <;> rfl
    split
    · rw [lookup_cons]
    · rename_i hne _
      rw [lookup_cons, lookup_cons, ih]
      split
      · rename_i heq
        rw [if_neg (fun h => hne (h.symm.trans heq))]
      · rfl

theorem lookup_ofMembers {members sorted : List (Text × Json)}
    (hkeys : (members.map Prod.fst).Nodup)
    (h : ofMembers members = .object sorted) (k : Text) : sorted.lookup k = members.lookup k := by
  have hfold : ∀ acc : List (Text × Json),
      (members.foldl (fun acc (k, v) => insert k v acc) acc).lookup k =
        (members.lookup k).or (acc.lookup k) := by
    clear h
    induction members with
    | nil => exact fun acc => rfl
    | cons head r ih =>
      obtain ⟨hfresh, hrest⟩ := List.nodup_cons.mp hkeys
      intro acc
      rw [List.foldl_cons, ih hrest, lookup_insert, lookup_cons]
      split
      · rename_i heq
        rw [heq, lookup_eq_none hfresh]
        rfl
      · rfl
  obtain rfl := Json.object.inj h
  simpa using hfold []

theorem IsAscending.lookup_of_lt {e : Text × Json} {members : List (Text × Json)}
    (h : IsAscending (e :: members)) {k : Text}
    (hk : k ≤ e.1) : members.lookup k = none := by
  apply lookup_eq_none
  intro hmem
  obtain ⟨f, hf, rfl⟩ := List.mem_map.mp hmem
  exact absurd ((List.pairwise_cons.mp h).1 f hf) (not_lt.mpr hk)

/-- Members in order are settled by what stands under each key. -/
theorem IsAscending.ext {a b : List (Text × Json)} (ha : IsAscending a) (hb : IsAscending b)
    (h : ∀ k, a.lookup k = b.lookup k) : a = b := by
  induction a generalizing b with
  | nil =>
    cases b with
    | nil => rfl
    | cons f b =>
      have hf := h f.1
      rw [lookup_cons, if_pos rfl] at hf
      cases hf
  | cons e a ih =>
    cases b with
    | nil =>
      have he := h e.1
      rw [lookup_cons, if_pos rfl] at he
      cases he
    | cons f b =>
      have he := h e.1
      have hf := h f.1
      simp only [lookup_cons, if_true] at he hf
      have hkey : e.1 = f.1 := by
        by_contra hne
        rw [if_neg hne] at he
        rw [if_neg (Ne.symm hne)] at hf
        rcases le_total e.1 f.1 with hle | hle
        · rw [hb.lookup_of_lt hle] at he
          cases he
        · rw [ha.lookup_of_lt hle] at hf
          cases hf
      rw [if_pos hkey] at he
      obtain rfl : e = f := Prod.ext hkey (Option.some.inj he)
      rw [ih (List.pairwise_cons.mp ha).2 (List.pairwise_cons.mp hb).2]
      intro k
      by_cases hk : k = e.1
      · rw [hk, ha.lookup_of_lt le_rfl, hb.lookup_of_lt le_rfl]
      · have hrest := h k
        rwa [lookup_cons, lookup_cons, if_neg hk, if_neg hk] at hrest

/-! ## Canonical values -/

/-- All numbers are integers or finite doubles. -/
inductive IsFinite : Json → Prop where
  | null : IsFinite .null
  | bool (b : Bool) : IsFinite (.bool b)
  | number (n : Number) (h : isFiniteNumber n = true) : IsFinite (.number n)
  | string (t : Text) : IsFinite (.string t)
  | array (items : List Json) (h : ∀ v ∈ items, IsFinite v) : IsFinite (.array items)
  | object (members : List (Text × Json)) (h : ∀ e ∈ members, IsFinite e.2) :
      IsFinite (.object members)

/-- All numbers are finite, and all objects have their keys in ascending order. -/
inductive IsCanonical : Json → Prop where
  | null : IsCanonical .null
  | bool (b : Bool) : IsCanonical (.bool b)
  | number (n : Number) (h : isFiniteNumber n = true) : IsCanonical (.number n)
  | string (t : Text) : IsCanonical (.string t)
  | array (items : List Json) (h : ∀ v ∈ items, IsCanonical v) : IsCanonical (.array items)
  | object (members : List (Text × Json)) (hkeys : IsAscending members)
      (h : ∀ e ∈ members, IsCanonical e.2) :
    IsCanonical (.object members)

theorem IsCanonical.isFinite {v : Json} (h : IsCanonical v) : IsFinite v := by
  induction h with
  | null => exact .null
  | bool b => exact .bool b
  | number n h => exact .number n h
  | string t => exact .string t
  | array items _ ih => exact .array items ih
  | object members _ _ ih => exact .object members ih

@[simp]
theorem isFinite_orNull {α : Type} {f : α → Json} {o : Option α} (h : ∀ a, IsFinite (f a)) :
    IsFinite (orNull f o) := by
  cases o with
  | none => exact .null
  | some a => exact h a

theorem isCanonical_ofMembers {members : List (Text × Json)} (h : ∀ e ∈ members, IsCanonical e.2) :
    IsCanonical (ofMembers members) := by
  obtain ⟨sorted, heq, hascending, hmem⟩ := ofMembers_spec members
  rw [heq]
  exact .object sorted hascending fun e he => h e (hmem e he)

theorem sortedItems_eq (items : List Json) : sortedItems items = items.map sorted := by
  induction items with
  | nil => rfl
  | cons v r ih => rw [sortedItems, ih, List.map_cons]

theorem sortedMembers_eq (members : List (Text × Json)) :
    sortedMembers members = members.map fun e => (e.1, sorted e.2) := by
  induction members with
  | nil => rfl
  | cons e r ih => rw [sortedMembers, ih, List.map_cons]

theorem IsFinite.sorted {v : Json} (h : IsFinite v) : IsCanonical v.sorted := by
  induction h with
  | null => exact .null
  | bool b => exact .bool b
  | number n h => exact .number n h
  | string t => exact .string t
  | array items _ ih =>
    rw [Json.sorted, sortedItems_eq]
    refine .array _ fun v hv => ?_
    obtain ⟨u, hu, rfl⟩ := List.mem_map.mp hv
    exact ih u hu
  | object members _ ih =>
    rw [Json.sorted, sortedMembers_eq]
    refine isCanonical_ofMembers fun e he => ?_
    obtain ⟨u, hu, rfl⟩ := List.mem_map.mp he
    exact ih u hu

/-! ## Changes below a key -/

theorem IsAscending.map {members : List (Text × Json)} (h : IsAscending members)
    {f : Text × Json → Text × Json}
    (hf : ∀ e, (f e).1 = e.1) : IsAscending (members.map f) := by
  refine List.pairwise_map.mpr (h.imp fun hlt => ?_)
  rwa [hf, hf]

theorem IsCanonical.modify {v : Json} (h : IsCanonical v) (key : Text) {f : Json → Json}
    (hf : ∀ w, IsCanonical w → IsCanonical (f w)) : IsCanonical (v.modify key f) := by
  cases h with
  | object members hkeys h =>
    refine .object _ (hkeys.map fun e => rfl) fun e he => ?_
    obtain ⟨u, hu, rfl⟩ := List.mem_map.mp he
    dsimp only
    split
    · exact hf _ (h u hu)
    · exact h u hu
  | null => exact .null
  | bool b => exact .bool b
  | number n h => exact .number n h
  | string t => exact .string t
  | array items h => exact .array items h

/-- The value in place of a text; what is no text stays. -/
def overText (value : Text) : Json → Json
  | .string _ => .string value
  | v => v

theorem overText_eq_iff {value : Text} {v w : Json} :
    overText value v = overText value w ↔
      v = w ∨ v.text?.isSome = true ∧ w.text?.isSome = true := by
  cases v <;> cases w <;> simp [overText, text?]

theorem get?_replaceText (key value : Text) (v : Json) (k : Text) :
    (v.replaceText key value).get? k = (v.get? k).map (if k = key then overText value else id) := by
  cases v with
  | object members =>
    simp only [replaceText, get?]
    induction members with
    | nil => rfl
    | cons e members ih =>
      obtain ⟨l, w⟩ := e
      rw [List.map_cons, lookup_cons, lookup_cons, ih]
      by_cases hk : k = l
      · subst hk
        cases w <;> by_cases hkey : k = key <;> simp [overText, hkey]
      · cases w <;> simp [hk]
  | null => rfl
  | bool b => rfl
  | number n => rfl
  | string t => rfl
  | array items => rfl

theorem IsAscending.replaceText {members : List (Text × Json)} (h : IsAscending members)
    (key value : Text) :
    ∃ replaced, (Json.object members).replaceText key value = .object replaced ∧
      IsAscending replaced := by
  refine ⟨_, rfl, h.map fun e => ?_⟩
  obtain ⟨k, v⟩ := e
  cases v <;> rfl

theorem IsCanonical.replaceText {v : Json} (h : IsCanonical v) (key value : Text) :
    IsCanonical (v.replaceText key value) := by
  cases h with
  | object members hkeys h =>
    obtain ⟨replaced, heq, hreplaced⟩ := hkeys.replaceText key value
    rw [heq]
    obtain rfl := Json.object.inj heq
    refine .object _ hreplaced fun e he => ?_
    · obtain ⟨⟨k, u⟩, hu, rfl⟩ := List.mem_map.mp he
      have := h (k, u) hu
      cases u <;> first | exact .string _ | exact this
  | null => exact .null
  | bool b => exact .bool b
  | number n h => exact .number n h
  | string t => exact .string t
  | array items h => exact .array items h

end Scenarist.Json

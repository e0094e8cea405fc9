import Scenarist.Proofs.Yaml.Fields

/-! # Objects in order

A value that is taken out of another one has the members of its objects in order. What a record was
written with is read back from there all the same, wherever its fields have gone.
-/

namespace Scenarist

namespace Json

theorem lookup_map (f : Json → Json) (members : List (Text × Json)) (k : Text) :
    (members.map fun m => (m.1, f m.2)).lookup k = (members.lookup k).map f := by
  induction members with
  | nil => rfl
  | cons m r ih =>
    rw [List.map_cons, lookup_cons, lookup_cons, ih]
    split <;> rfl

theorem lookup_filter {key k : Text} (h : k ≠ key) (members : List (Text × Json)) :
    (members.filter fun m => m.1 != key).lookup k = members.lookup k := by
  induction members with
  | nil => rfl
  | cons m r ih =>
    rw [List.filter_cons, lookup_cons]
    split
    · rw [lookup_cons, ih]
    · rename_i hkey
      obtain rfl : m.1 = key := by simpa using hkey
      rw [ih, if_neg h]

theorem lookup_of_mem {members : List (Text × Json)} (h : (members.map Prod.fst).Nodup)
    {m : Text × Json}
    (hm : m ∈ members) : members.lookup m.1 = some m.2 := by
  induction members with
  | nil => cases hm
  | cons head r ih =>
    obtain ⟨hfresh, hrest⟩ := List.nodup_cons.mp h
    rw [lookup_cons]
    rcases List.mem_cons.mp hm with rfl | hm
    · exact if_pos rfl
    · have hne : m.1 ≠ head.1 := fun heq => hfresh (heq ▸ List.mem_map_of_mem hm)
      rw [if_neg hne, ih hrest hm]

theorem lookup_sorted {members : List (Text × Json)} (h : (members.map Prod.fst).Nodup) :
    ∃ ordered, (Json.object members).sorted = .object ordered ∧ (ordered.map Prod.fst).Nodup ∧
      ∀ k, ordered.lookup k = (members.lookup k).map sorted := by
  obtain ⟨ordered, heq, hascending, -⟩ := ofMembers_spec (sortedMembers members)
  have hkeys : ((sortedMembers members).map Prod.fst).Nodup := by
    rw [sortedMembers_eq, List.map_map]
    exact h
  refine ⟨ordered, by rw [sorted, heq], ?_, fun k => ?_⟩
  · exact List.pairwise_map.mpr (hascending.imp ne_of_lt)
  · rw [lookup_ofMembers hkeys heq, sortedMembers_eq, lookup_map]

end Json

namespace Yaml

open Node

/-- A value that is taken out of another one is put in order. -/
theorem json?_ofJson {v : Json} (h : Json.IsFinite v) : (ofJson v).json? = some v.sorted := by
  change jsonOfTree? (.ofJson v) = _
  induction h with
  | null => rfl
  | bool b => rfl
  | string t => rfl
  | number n h => rw [Tree.ofJson, jsonOfTree?, finiteNumber_eq h]; rfl
  | array items _ ih =>
    rw [Tree.ofJson, jsonOfTree?, jsonOfItems?_eq, Tree.ofJsonItems_eq, List.mapM_map,
      mapM_of_some (f := jsonOfTree? ∘ Tree.ofJson) ih, Json.sorted, Json.sortedItems_eq]
    rfl
  | object members _ ih =>
    rw [Tree.ofJson, jsonOfTree?, jsonOfEntries?_ofJsonMembers,
      mapM_of_some fun m hm => by rw [ih m hm, Option.map_some], Json.sorted, Json.sortedMembers_eq]
    rfl

theorem sorted_eq_self {v : Json} (h : Json.IsCanonical v) : v.sorted = v :=
  Option.some.inj ((json?_ofJson h.isFinite).symm.trans (faithful_ofJson.json h))

theorem takeUnder?_eq {f : Json → Node} {key : Text} {v : Json} {members : List (Text × Json)}
    (hkeys : (members.map Prod.fst).Nodup) (h : members.lookup key = some v) :
    takeUnder? key (members.map fun m => (.string m.1, f m.2)) =
      some (f v, (members.filter fun m => m.1 != key).map fun m => (.string m.1, f m.2)) := by
  induction members with
  | nil => cases h
  | cons m r ih =>
    obtain ⟨hfresh, hrest⟩ := List.nodup_cons.mp hkeys
    rw [Json.lookup_cons] at h
    rw [List.map_cons, List.filter_cons]
    split at h
    · rename_i heq
      obtain rfl := Option.some.inj h
      have hother : ∀ u ∈ r, u.1 ≠ key := by
        rintro u hu rfl
        exact hfresh (List.mem_map.mpr ⟨u, hu, heq⟩)
      rw [← heq, takeUnder?_first f hother, if_neg (by simp), List.filter_eq_self.mpr fun u hu =>
        bne_iff_ne.mpr (hother u hu)]
    · rename_i hne
      rw [takeUnder?, if_neg fun hkey => hne (Tree.string.inj hkey).symm, ih hrest h,
        if_pos (bne_iff_ne.mpr (Ne.symm hne))]
      rfl

theorem takeUnder?_eq_none {f : Json → Node} {key : Text} {members : List (Text × Json)}
    (h : members.lookup key = none) :
      takeUnder? key (members.map fun m => (.string m.1, f m.2)) = none := by
  induction members with
  | nil => rfl
  | cons m r ih =>
    rw [Json.lookup_cons] at h
    split at h
    · cases h
    · rename_i hne
      rw [List.map_cons, takeUnder?, if_neg fun hkey => hne (Tree.string.inj hkey).symm, ih h]
      rfl

theorem tagged?_object {key : Text} {v : Json} {members : List (Text × Json)}
    (hkeys : (members.map Prod.fst).Nodup)
    (h : members.lookup key = some v) :
    (ofJson (.object members)).tagged? key =
      (ofJson v).text?.map fun word =>
        (word, ofJson (.object (members.filter fun m => m.1 != key))) := by
  rw [ofJson, Tree.ofJson, tagged?, Tree.ofJsonMembers_eq, List.map_map]
  change ((takeUnder? key (members.map fun m => (.string m.1, ofJson m.2))).bind _) = _
  rw [takeUnder?_eq hkeys h, Option.bind_some]
  dsimp only
  rw [List.mapM_map, mapM_of_some (g := fun m => (Tree.string m.1, Tree.ofJson m.2)) fun m _ =>
    by rfl, ofJson_object]
  cases (ofJson v).text? <;> rfl

theorem tagged?_object_eq_none {key : Text} {members : List (Text × Json)}
    (h : members.lookup key = none) :
    (ofJson (.object members)).tagged? key = none := by
  rw [ofJson, Tree.ofJson, tagged?, Tree.ofJsonMembers_eq, List.map_map]
  change ((takeUnder? key (members.map fun m => (.string m.1, ofJson m.2))).bind _) = _
  rw [takeUnder?_eq_none h]
  rfl

/-- The record has these fields, with their values in order. -/
def Node.Record.Carries (r : Record) (members : List (Text × Json)) : Prop :=
  ∀ m ∈ members, r.fields.lookup m.1 = some (ofJson m.2.sorted)

theorem tagged?_sorted (key word : Text) (members : List (Text × Json)) (names : List Text)
    (hmembers : members.map Prod.fst = names) (hnodup : (key :: names).Nodup)
    (hnames : Text.isOneOf [] names = false) :
    ∃ rest r, (ofJson (Json.object ((key, .string word) :: members)).sorted).tagged? key =
      some (word, rest) ∧
      rest.record? names = some r ∧ r.Carries members := by
  subst hmembers
  have hkeys : (((key, Json.string word) :: members).map Prod.fst).Nodup := hnodup
  obtain ⟨ordered, heq, hordered, hlookup⟩ := Json.lookup_sorted hkeys
  have hword : ordered.lookup key = some (.string word) := by
    rw [hlookup, Json.lookup_cons, if_pos rfl]
    rfl
  have hrest : ((ordered.filter fun m => m.1 != key).map Prod.fst).Nodup :=
    (List.filter_sublist.map _).nodup hordered
  obtain ⟨r, -, hrecord, hr⟩ := faithful_ofJson.holds (members.map Prod.fst) hnames hrest
  refine ⟨_, r, ?_, hrecord, fun m hm => ?_⟩
  · rw [heq, tagged?_object hordered hword]
    rfl
  · obtain ⟨hfresh, hdistinct⟩ := List.nodup_cons.mp hkeys
    have hmem : m.1 ∈ members.map Prod.fst := List.mem_map_of_mem hm
    have hne : m.1 ≠ key := fun h => hfresh (h ▸ hmem)
    rw [hr.lookup _ (by simpa [Text.isOneOf] using hmem), Json.lookup_filter hne, hlookup,
      Json.lookup_cons, if_neg hne, Json.lookup_of_mem hdistinct hm]
    rfl

end Yaml

end Scenarist

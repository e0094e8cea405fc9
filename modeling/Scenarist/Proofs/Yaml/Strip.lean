import Scenarist.Proofs.Yaml.Faithful
import Scenarist.Yaml.Strip

/-! # Values without defaults

What is left of a JSON value without its defaults is a JSON value again. A field of a record is left
out or kept on its own, whatever the other fields are.
-/

namespace Scenarist

open Yaml

/-! ## Stripped values -/

mutual

/-- The value without its defaults. -/
def Json.strip : Json → Json
  | .array items => .array (Json.stripItems items)
  | .object members => .object (Json.stripMembers members)
  | .null => .null
  | .bool b => .bool b
  | .number n => .number n
  | .string t => .string t

def Json.stripItems : List Json → List Json
  | [] => []
  | v :: r => Json.strip v :: Json.stripItems r

def Json.stripMembers : List (Text × Json) → List (Text × Json)
  | [] => []
  | (k, v) :: r =>
    if v = .null then Json.stripMembers r
    else if k = "debug" then (k, v) :: Json.stripMembers r
    else if isDefault k (.ofJson v) then Json.stripMembers r
    else (k, Json.strip v) :: Json.stripMembers r

end

namespace Json

/-- The members of an object. -/
def membersOf : Json → List (Text × Json)
  | .object members => members
  | _ => []

/-- What is left of the value of a field, if anything is. -/
def keep? (key : Text) (v : Json) : Option Json :=
  if v = .null then none
  else if key = "debug" then some v
  else if isDefault key (.ofJson v) then none
  else some v.strip

theorem stripItems_eq (items : List Json) : stripItems items = items.map strip := by
  induction items with
  | nil => rfl
  | cons v r ih => rw [stripItems, ih, List.map_cons]

theorem stripMembers_eq (members : List (Text × Json)) :
    stripMembers members = members.filterMap fun m => (keep? m.1 m.2).map fun v => (m.1, v) := by
  induction members with
  | nil => rfl
  | cons m r ih =>
    obtain ⟨k, v⟩ := m
    rw [stripMembers, List.filterMap_cons, keep?]
    split
    · exact ih
    split
    · rw [ih]
      rfl
    split
    · exact ih
    · rw [ih]
      rfl

theorem keep?_ordinary {key : Text} {v : Json}
    (hkey : key ≠ "debug" ∧ key ≠ "modifiers" ∧ key ≠ "framePath")
    (hv : v ≠ .null) : keep? key v = some v.strip := by
  have hdefault : isDefault key (.ofJson v) = false := by
    unfold isDefault
    rw [if_neg hkey.2.1, if_neg hkey.2.2]
  rw [keep?, if_neg hv, if_neg hkey.1, hdefault, if_neg Bool.false_ne_true]

theorem keep?_list {key : Text} {items : List Json} (hkey : key ≠ "debug") (h : items ≠ []) :
    keep? key (.array items) = some (Json.array items).strip := by
  have hdefault : isDefault key (.ofJson (.array items)) = false := by
    obtain ⟨v, r, rfl⟩ := List.exists_cons_of_ne_nil h
    unfold isDefault
    split
    · rfl
    split <;> rfl
  rw [keep?, if_neg (by simp), if_neg hkey, hdefault, if_neg Bool.false_ne_true]

theorem isNull_ofJson (v : Json) : (Tree.ofJson v).isNull = decide (v = .null) := by
  cases v <;> rfl

theorem strip_ofJson (v : Json) : Yaml.strip (.ofJson v) = .ofJson v.strip := by
  induction v using Json.induct with
  | null => rfl
  | bool b => rfl
  | number n => rfl
  | string t => rfl
  | array items ih =>
    rw [Tree.ofJson, Yaml.strip, strip, Tree.ofJson]
    congr 1
    induction items with
    | nil => rfl
    | cons v r ihr =>
      rw [Tree.ofJsonItems, Yaml.stripItems, stripItems, Tree.ofJsonItems, ih v (by simp),
        ihr fun u hu => ih u (by simp [hu])]
  | object members ih =>
    rw [Tree.ofJson, Yaml.strip, strip, Tree.ofJson]
    congr 1
    induction members with
    | nil => rfl
    | cons m r ihr =>
      obtain ⟨k, v⟩ := m
      have hrest := ihr fun u hu => ih u (by simp [hu])
      have hname : ((Tree.string k).text?.getD []) = k := rfl
      rw [Tree.ofJsonMembers, Yaml.stripEntries, stripMembers, isNull_ofJson, hname, hrest,
        ih (k, v) (by simp)]
      by_cases hnull : v = .null
      · rw [if_pos (decide_eq_true hnull), if_pos hnull]
      rw [if_neg (by simpa using hnull), if_neg hnull]
      by_cases hdebug : k = "debug"
      · rw [if_pos hdebug, if_pos hdebug, Tree.ofJsonMembers]
      rw [if_neg hdebug, if_neg hdebug]
      by_cases hdefault : isDefault k (.ofJson v) = true
      · rw [if_pos hdefault, if_pos hdefault]
      · rw [if_neg hdefault, if_neg hdefault, Tree.ofJsonMembers]

/-! ## Fields -/

theorem keys_stripMembers (members : List (Text × Json)) :
    ((stripMembers members).map Prod.fst).Sublist (members.map Prod.fst) := by
  induction members with
  | nil => exact .slnil
  | cons m r ih =>
    rw [stripMembers_eq, List.filterMap_cons] at *
    split
    · exact ih.cons _
    · rename_i heq
      obtain ⟨v, -, rfl⟩ := Option.map_eq_some_iff.mp heq
      exact ih.cons_cons _

theorem mem_stripMembers {members : List (Text × Json)} {m : Text × Json}
    (h : m ∈ stripMembers members) :
    ∃ v, (m.1, v) ∈ members ∧ keep? m.1 v = some m.2 := by
  rw [stripMembers_eq, List.mem_filterMap] at h
  obtain ⟨u, hu, heq⟩ := h
  obtain ⟨v, hv, rfl⟩ := Option.map_eq_some_iff.mp heq
  exact ⟨u.2, hu, hv⟩

theorem lookup_stripMembers {members : List (Text × Json)} (h : (members.map Prod.fst).Nodup)
    (name : Text) :
    (stripMembers members).lookup name = (members.lookup name).bind (keep? name) := by
  induction members with
  | nil => rfl
  | cons m r ih =>
    obtain ⟨k, v⟩ := m
    obtain ⟨hfresh, hrest⟩ := List.nodup_cons.mp h
    have ih := ih hrest
    rw [stripMembers_eq] at ih ⊢
    rw [List.filterMap_cons, List.lookup_cons]
    cases hname : name == k with
    | true =>
      obtain rfl := beq_iff_eq.mp hname
      rw [lookup_eq_none hfresh, Option.bind_none] at ih
      cases hkeep : keep? name v with
      | none => simpa [hkeep] using ih
      | some w => simp [hkeep]
    | false =>
      cases hkeep : keep? k v with
      | none => simpa [hkeep] using ih
      | some w =>
        simp only [Option.map_some, List.lookup_cons, hname]
        exact ih

theorem keep?_eq {key : Text} {v w : Json} (h : keep? key v = some w) : w = v ∨ w = v.strip := by
  unfold keep? at h
  split at h
  · exact absurd h (by simp)
  split at h
  · exact .inl (Option.some.inj h).symm
  split at h
  · exact absurd h (by simp)
  · exact .inr (Option.some.inj h).symm

end Json

theorem Yaml.Settles.isFinite {v : Json} (h : Settles v) : Json.IsFinite v := by
  induction h with
  | null => exact .null
  | bool b => exact .bool b
  | number n h => exact .number n h
  | string t => exact .string t
  | array items _ ih => exact .array items ih
  | object members _ _ ih => exact .object members ih

theorem Yaml.Settles.ofKeys {members : List (Text × Json)} (names : List Text)
    (hnames : names.all isTextKey = true)
    (hkeys : members.map Prod.fst = names) (h : ∀ m ∈ members, Settles m.2) :
      Settles (.object members) := by
  refine .object members (fun m hm => ?_) h
  rw [← hkeys] at hnames
  exact List.all_eq_true.mp hnames m.1 (List.mem_map_of_mem hm)

theorem Yaml.Settles.orNull {α : Type} {g : α → Json} {o : Option α} (h : ∀ a ∈ o, Settles (g a)) :
    Settles (Json.orNull g o) := by
  cases o with
  | none => exact .null
  | some a => exact h a rfl

theorem Yaml.Settles.strip {v : Json} (h : Settles v) : Settles v.strip := by
  induction h with
  | null => exact .null
  | bool b => exact .bool b
  | number n h => exact .number n h
  | string t => exact .string t
  | array items _ ih =>
    rw [Json.strip, Json.stripItems_eq]
    refine .array _ fun v hv => ?_
    obtain ⟨u, hu, rfl⟩ := List.mem_map.mp hv
    exact ih u hu
  | object members hkeys h ih =>
    rw [Json.strip]
    refine .object _ (fun m hm => ?_) fun m hm => ?_
    · obtain ⟨v, hv, -⟩ := Json.mem_stripMembers hm
      exact hkeys (m.1, v) hv
    · obtain ⟨v, hv, hkeep⟩ := Json.mem_stripMembers hm
      rcases Json.keep?_eq hkeep with heq | heq <;> rw [heq]
      · exact h (m.1, v) hv
      · exact ih (m.1, v) hv

end Scenarist

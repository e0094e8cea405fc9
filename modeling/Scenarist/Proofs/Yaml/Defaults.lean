import Mathlib.Data.List.Forall2
import Scenarist.Yaml.Strip

/-! # What is left of a tree

Of a tree without tags are left out, at every depth, the entries that say no more than their
absence, and nothing else; what stands under `debug` is left as it is. Nothing is left out of what
is left.
-/

namespace Scenarist.Yaml

/-! ## Trees -/

@[elab_as_elim]
theorem Tree.induct {motive : Tree → Prop} (null : motive .null) (bool : ∀ b, motive (.bool b))
    (number : ∀ n, motive (.number n)) (string : ∀ t, motive (.string t))
    (sequence : ∀ items, (∀ v ∈ items, motive v) → motive (.sequence items))
    (mapping : ∀ entries : List (Tree × Tree), (∀ e ∈ entries, motive e.2) →
      motive (.mapping entries))
    (tagged : ∀ tag v, motive v → motive (.tagged tag v)) (v : Tree) : motive v :=
  @Tree.rec motive (fun items => ∀ v ∈ items, motive v) (fun entries => ∀ e ∈ entries, motive e.2)
    (fun e => motive e.2) null bool number string sequence mapping tagged
    (fun _ h => absurd h List.not_mem_nil)
    (fun _ _ hv hr _ h => (List.mem_cons.mp h).elim (fun heq => heq ▸ hv) (hr _))
    (fun _ h => absurd h List.not_mem_nil)
    (fun _ _ he hr _ h => (List.mem_cons.mp h).elim (fun heq => heq ▸ he) (hr _))
    (fun _ _ _ h => h) v

/-- No value and no key of the tree has a tag. -/
inductive Tree.IsUntagged : Tree → Prop where
  | null : IsUntagged .null
  | bool (b : Bool) : IsUntagged (.bool b)
  | number (n : Number) : IsUntagged (.number n)
  | string (t : Text) : IsUntagged (.string t)
  | sequence {items : List Tree} (h : ∀ v ∈ items, IsUntagged v) : IsUntagged (.sequence items)
  | mapping {entries : List (Tree × Tree)} (hkeys : ∀ e ∈ entries, IsUntagged e.1)
      (h : ∀ e ∈ entries, IsUntagged e.2) : IsUntagged (.mapping entries)

theorem Tree.IsUntagged.untag_eq {v : Tree} (h : v.IsUntagged) : v.untag = v := by
  cases h <;> rfl

/-! ## Entries -/

/-- The entry says no more than its absence. -/
def IsSilent (e : Tree × Tree) : Prop :=
  e.2 = .null ∨ e.1 = .string "modifiers" ∧ (e.2 = .number .zero ∨ e.2 = .sequence []) ∨
    e.1 = .string "framePath" ∧ e.2 = .sequence []

instance (e : Tree × Tree) : Decidable (IsSilent e) := inferInstanceAs (Decidable (_ ∨ _))

mutual

/-- The second tree is left of the first. -/
inductive Leaves : Tree → Tree → Prop where
  | null : Leaves .null .null
  | bool (b : Bool) : Leaves (.bool b) (.bool b)
  | number (n : Number) : Leaves (.number n) (.number n)
  | string (t : Text) : Leaves (.string t) (.string t)
  | sequence {items left : List Tree} (h : List.Forall₂ Leaves items left) :
      Leaves (.sequence items) (.sequence left)
  | mapping {entries left : List (Tree × Tree)}
      (h : List.Forall₂ LeavesEntry (entries.filter fun e => ¬IsSilent e) left) :
    Leaves (.mapping entries) (.mapping left)

/-- The second entry is left of the first, which is not silent. -/
inductive LeavesEntry : Tree × Tree → Tree × Tree → Prop where
  | debug (v : Tree) : LeavesEntry (.string "debug", v) (.string "debug", v)
  | other {key v left : Tree} (hkey : key ≠ .string "debug") (h : Leaves v left) :
      LeavesEntry (key, v) (key, left)

end

/-! ## What is left out -/

/-- The entry is null or has its default. -/
def isLeftOut (e : Tree × Tree) : Bool := e.2.isNull || isDefault (e.1.text?.getD []) e.2

/-- What an entry becomes that is not left out. -/
def stripEntry (e : Tree × Tree) : Tree × Tree :=
  (e.1, if e.1.text?.getD [] = "debug" then e.2 else strip e.2)

theorem stripItems_eq (items : List Tree) : stripItems items = items.map strip := by
  induction items with
  | nil => rfl
  | cons v r ih => rw [stripItems, ih, List.map_cons]

theorem isDefault_debug (v : Tree) : isDefault "debug" v = false := by
  unfold isDefault
  rw [if_neg (by decide), if_neg (by decide)]

theorem stripEntries_cons (e : Tree × Tree) (r : List (Tree × Tree)) :
    stripEntries (e :: r) = if isLeftOut e then stripEntries r
      else stripEntry e :: stripEntries r := by
  obtain ⟨key, v⟩ := e
  rw [stripEntries, isLeftOut, stripEntry]
  by_cases hdebug : key.text?.getD [] = "debug".toList
  · rw [if_pos hdebug, if_pos hdebug, hdebug, isDefault_debug, Bool.or_false]
  · rw [if_neg hdebug, if_neg hdebug]
    cases v.isNull <;> rfl

theorem stripEntries_eq (entries : List (Tree × Tree)) :
    stripEntries entries = (entries.filter fun e => !isLeftOut e).map stripEntry := by
  induction entries with
  | nil => rfl
  | cons e r ih =>
    rw [stripEntries_cons, ih, List.filter_cons]
    cases isLeftOut e <;> rfl

/-! ## Nothing is left out twice -/

theorem untag_strip (v : Tree) : (strip v).untag = strip v.untag := by
  induction v using Tree.induct with
  | tagged tag v ih => rw [strip, Tree.untag, Tree.untag, ih]
  | _ => rfl

theorem isNull_strip (v : Tree) : (strip v).isNull = v.isNull := by
  rw [Tree.isNull, Tree.isNull, untag_strip]
  cases v.untag <;> rfl

theorem isEmpty_stripItems (items : List Tree) : (stripItems items).isEmpty = items.isEmpty := by
  cases items <;> rfl

theorem isDefault_strip (key : Text) (v : Tree) : isDefault key (strip v) = isDefault key v := by
  unfold isDefault
  split
  · cases v with
    | sequence items => exact isEmpty_stripItems items
    | _ => rfl
  split
  · rw [untag_strip]
    cases v.untag with
    | sequence items => exact isEmpty_stripItems items
    | _ => rfl
  · rfl

theorem isLeftOut_stripEntry (e : Tree × Tree) : isLeftOut (stripEntry e) = isLeftOut e := by
  unfold isLeftOut stripEntry
  split
  · rfl
  · rw [isNull_strip, isDefault_strip]

theorem strip_strip (v : Tree) : strip (strip v) = strip v := by
  induction v using Tree.induct with
  | sequence items ih =>
    simp only [strip, stripItems_eq, List.map_map]
    exact congrArg _ (List.map_congr_left ih)
  | mapping entries ih =>
    have hentry : ∀ e ∈ entries, stripEntry (stripEntry e) = stripEntry e := by
      intro e he
      unfold stripEntry
      split
      · rfl
      · rw [ih e he]
    -- Stripping empties no collection that was not empty, so no entry that stays becomes a default.
    have hkept : ∀ e ∈ (entries.filter fun e => !isLeftOut e).map stripEntry,
        (!isLeftOut e) = true := by
      intro e he
      obtain ⟨e, hmem, rfl⟩ := List.mem_map.mp he
      rw [isLeftOut_stripEntry]
      exact (List.mem_filter.mp hmem).2
    simp only [strip, stripEntries_eq, List.filter_eq_self.mpr hkept, List.map_map]
    exact congrArg _ (List.map_congr_left fun e he => hentry e (List.mem_filter.mp he).1)
  | tagged tag v ih => rw [strip, strip, ih]
  | _ => rfl

/-! ## Nothing else is left out -/

theorem Tree.IsUntagged.isNull_iff {v : Tree} (h : v.IsUntagged) : v.isNull = true ↔ v = .null := by
  rw [Tree.isNull, h.untag_eq]
  cases v <;> simp

theorem isDefault_iff {key : Text} {v : Tree} (h : v.IsUntagged) :
    isDefault key v = true ↔ key = "modifiers".toList ∧ (v = .number .zero ∨ v = .sequence []) ∨
      key = "framePath".toList ∧ v = .sequence [] := by
  unfold isDefault
  rw [h.untag_eq]
  split
  · rename_i hkey
    have hother : key ≠ "framePath".toList := by
      rw [hkey]
      decide
    cases v with
    | number n =>
      cases n with
      | integer n => simp [hkey, Number.toInt?, Number.zero]
      | real x => simp [Number.toInt?, Number.zero]
    | _ => simp [hkey]
  split
  · rename_i hkey
    cases v <;> simp [hkey]
  · rename_i hmodifiers hframes
    exact iff_of_false Bool.false_ne_true
      (not_or.mpr ⟨fun h => hmodifiers h.1, fun h => hframes h.1⟩)

theorem isLeftOut_iff {e : Tree × Tree} (hkey : e.1.IsUntagged) (hv : e.2.IsUntagged) :
    isLeftOut e = true ↔ IsSilent e := by
  obtain ⟨key, v⟩ := e
  rw [isLeftOut, Bool.or_eq_true, hv.isNull_iff, isDefault_iff hv, IsSilent, Tree.text?,
    hkey.untag_eq]
  cases key <;> simp

theorem forall₂_iff_eq_map {α β : Type} {R : α → β → Prop} {f : α → β} {as : List α}
    (h : ∀ a ∈ as, ∀ b, R a b ↔ b = f a)
    {bs : List β} : List.Forall₂ R as bs ↔ bs = as.map f := by
  induction as generalizing bs with
  | nil => simp
  | cons a as ih =>
    obtain ⟨ha, has⟩ := List.forall_mem_cons.mp h
    rw [List.forall₂_cons_left_iff, List.map_cons]
    simp [ha, ih has]

theorem leaves_sequence_iff {items : List Tree} {w : Tree} :
    Leaves (.sequence items) w ↔ ∃ left, List.Forall₂ Leaves items left ∧ w = .sequence left := by
  constructor
  · rintro (_ | _ | _ | _ | h)
    exact ⟨_, h, rfl⟩
  · rintro ⟨left, h, rfl⟩
    exact .sequence h

theorem leaves_mapping_iff {entries : List (Tree × Tree)} {w : Tree} :
    Leaves (.mapping entries) w ↔
      ∃ left, List.Forall₂ LeavesEntry (entries.filter fun e => ¬IsSilent e) left ∧
        w = .mapping left := by
  constructor
  · rintro (_ | _ | _ | _ | _ | h)
    exact ⟨_, h, rfl⟩
  · rintro ⟨left, h, rfl⟩
    exact .mapping h

theorem leavesEntry_iff {e f : Tree × Tree} (hkey : e.1.IsUntagged)
    (h : ∀ w, Leaves e.2 w ↔ w = strip e.2) :
    LeavesEntry e f ↔ f = stripEntry e := by
  obtain ⟨key, v⟩ := e
  have hname : key.text?.getD [] = "debug".toList ↔ key = .string "debug".toList := by
    rw [Tree.text?, hkey.untag_eq]
    cases key <;> simp
  constructor
  · rintro (_ | ⟨hother, hv⟩)
    · rfl
    · rw [stripEntry, if_neg (mt hname.mp hother), (h _).mp hv]
  · rintro rfl
    by_cases hdebug : key = .string "debug".toList
    · rw [stripEntry, if_pos (hname.mpr hdebug), hdebug]
      exact .debug v
    · rw [stripEntry, if_neg (mt hname.mp hdebug)]
      exact .other hdebug ((h _).mpr rfl)

/-- A tree without tags leaves what it is stripped to, and nothing else. -/
theorem leaves_iff {v : Tree} (h : v.IsUntagged) (w : Tree) : Leaves v w ↔ w = strip v := by
  induction v using Tree.induct generalizing w with
  | sequence items ih =>
    cases h with
    | sequence hitems =>
    rw [leaves_sequence_iff, strip, stripItems_eq]
    simp only [forall₂_iff_eq_map fun v hv => ih v hv (hitems v hv), exists_eq_left]
  | mapping entries ih =>
    cases h with
    | mapping hkeys hvalues =>
    -- Without tags an entry is left out just where it is silent.
    have hfilter : (entries.filter fun e => ¬IsSilent e) = entries.filter fun e =>
      !isLeftOut e := by
      refine List.filter_congr fun e he => ?_
      rw [decide_not, ← Bool.decide_coe (isLeftOut e)]
      simp only [isLeftOut_iff (hkeys e he) (hvalues e he)]
    have hentry : ∀ e ∈ entries.filter fun e => !isLeftOut e, ∀ f, LeavesEntry e f ↔
        f = stripEntry e := by
      intro e he f
      have hmem := (List.mem_filter.mp he).1
      exact leavesEntry_iff (hkeys e hmem) (ih e hmem (hvalues e hmem))
    rw [leaves_mapping_iff, strip, stripEntries_eq, hfilter]
    simp only [forall₂_iff_eq_map hentry, exists_eq_left]
  | tagged tag v => nomatch h
  | _ =>
    constructor
    · rintro ⟨⟩
      rfl
    · rintro rfl
      constructor

/-- What is left of a tree is left as it is. Without tags it is just what the tree leaves entry by
entry, at every depth. -/
theorem strip_settled (v : Tree) :
    strip (strip v) = strip v ∧ (v.IsUntagged → ∀ w, Leaves v w ↔ w = strip v) :=
  ⟨strip_strip v, leaves_iff⟩

/-- A click without modifiers in no frame, which carries defaults of its own. -/
theorem strip_settled_click :
    let debug : Tree := .mapping [(.string "modifiers", .number .zero)]
    let selector : Tree :=
      .mapping [(.string "framePath", .sequence []), (.number .zero, .sequence [.null])]
    let v : Tree :=
      .mapping [(.string "modifiers", .sequence []), (.string "selector", selector),
      (.string "debug", debug), (.string "url", .null)]
    let left : Tree :=
      .mapping [(.string "selector", .mapping [(.number .zero, .sequence [.null])]),
      (.string "debug", debug)]
    v.IsUntagged ∧ Leaves v left ∧ strip (strip v) = left := by
  intro debug selector v left
  have hnone : Tree.IsUntagged (.sequence []) := .sequence nofun
  have hnull : Tree.IsUntagged (.sequence [.null]) := .sequence (by simpa using .null)
  have hdebug : debug.IsUntagged :=
    .mapping (by simpa [debug] using .string _) (by simpa [debug] using .number _)
  have hselector : selector.IsUntagged :=
    .mapping (by simpa [selector] using ⟨.string _, .number _⟩)
      (by simpa [selector] using ⟨hnone, hnull⟩)
  have huntagged : v.IsUntagged :=
    .mapping (by simpa [v] using ⟨.string _, .string _, .string _, .string _⟩)
      (by simpa [v] using ⟨hnone, hselector, hdebug, .null⟩)
  have hstrip : left = strip v := by decide
  obtain ⟨hsettled, hleaves⟩ := strip_settled v
  exact ⟨huntagged, (hleaves huntagged left).mpr hstrip, hsettled.trans hstrip.symm⟩

end Scenarist.Yaml

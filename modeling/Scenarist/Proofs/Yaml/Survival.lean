import Scenarist.Proofs.Json.Texts
import Scenarist.Proofs.Yaml.Reserved
import Scenarist.Proofs.Yaml.Rows

/-! # Trees that survive their text

Which trees are read back as they are from the block that is written for them. Strings are quoted
and keys that look like names are not, so it is the characters of the strings and the words among
the keys that decide, besides the length of keys and the depth of collections.
-/

namespace Scenarist.Yaml

open Layout

/-! ## Characters that a document may hold -/

/-- A quoted text may hold the character: as an escape, or because documents may. -/
def isWritable (c : Char) : Bool := decide (c < ' ') || isAllowed c

theorem allowed_escapeChar (c : Char) : (Json.escapeChar c).all isAllowed = isWritable c := by
  rcases escapeChar_cases c with ⟨hc, -, -, hspace⟩ | ⟨-, -, -, hcontrol | rfl | rfl⟩
  · rw [hc, isWritable, decide_eq_false (Char.not_lt.mpr hspace)]
    simp
  · have hall : ∀ n < 32, (Json.escapeChar (Char.ofNat n)).all isAllowed = true := by decide
    have hescape := hall c.toNat hcontrol
    rw [Char.ofNat_toNat] at hescape
    rw [hescape, isWritable, decide_eq_true hcontrol]
    rfl
  · rfl
  · rfl

theorem allowed_quote (t : Text) : (Json.quote t).all isAllowed = t.all isWritable := by
  have hquote : isAllowed '"' = true := rfl
  simp only [quote_eq_escaped, escaped, List.all_cons, List.all_append, List.all_nil,
    List.all_flatMap, allowed_escapeChar, hquote, Bool.true_and, Bool.and_true]

theorem isAllowed_word {c : Char} (h : isWordChar c = true) : isAllowed c = true := by
  rw [isWordChar, Bool.or_eq_true, Bool.or_eq_true, Bool.or_eq_true, beq_iff_eq, beq_iff_eq,
    beq_iff_eq] at h
  rcases h with ((h | rfl) | rfl) | rfl
  · have hrange := Text.alphanum_range h
    simp only [isAllowed, Bool.or_eq_true, Bool.and_eq_true, decide_eq_true_eq, beq_iff_eq]
    omega
  · rfl
  · rfl
  · rfl

theorem allowed_word {w : Text} (h : w.all isWordChar = true) : w.all isAllowed = true :=
  List.all_eq_true.mpr fun c hc => isAllowed_word (List.all_eq_true.mp h c hc)

theorem allowed_keyText (k : Text) : (keyText (.string k)).all isAllowed = k.all isWritable := by
  cases hplain : isPlainKey k with
  | true =>
    have hallowed := List.all_eq_true.mp (allowed_word (plainKey_spec hplain).1)
    have hwritable : k.all isWritable = true :=
      List.all_eq_true.mpr fun c hc => by rw [isWritable, hallowed c hc, Bool.or_true]
    rw [keyText_plain hplain, hwritable, List.all_eq_true.mpr hallowed]
  | false => rw [keyText_quoted hplain, allowed_quote]

/-! ### Rows -/

/-- A document may hold the rows. -/
def areAllowed (rows : List Text) : Bool := rows.all fun row => row.all isAllowed

theorem areAllowed_cons (row : Text) (rows : List Text) :
    areAllowed (row :: rows) = (row.all isAllowed && areAllowed rows) := rfl

theorem areAllowed_append (a b : List Text) :
    areAllowed (a ++ b) = (areAllowed a && areAllowed b) := List.all_append

theorem areAllowed_indented (rows : List Text) :
    areAllowed (rows.map fun row => ' ' :: ' ' :: row) = areAllowed rows := by
  have hblank : isAllowed ' ' = true := rfl
  simp [areAllowed, List.all_map, Function.comp_def, hblank]

theorem areAllowed_dashed (rows : List Text) : areAllowed (dashed rows) = areAllowed rows := by
  cases rows with
  | nil => rfl
  | cons row rest =>
    rw [dashed, areAllowed_cons, areAllowed_cons, areAllowed_indented]
    rfl

theorem allowed_typeset (k : Nat) (rows : List Text) :
    (typeset k rows).all isAllowed = areAllowed rows := by
  have hpad : (pad k).all isAllowed = true :=
    List.all_eq_true.mpr fun c hc => by rw [List.eq_of_mem_replicate hc]; rfl
  have hfeed : isAllowed '\n' = true := rfl
  simp [typeset, Text.ofRows, areAllowed, List.all_flatMap, List.all_map, Function.comp_def, hpad,
    hfeed]

theorem allowed_rowsOfItems (items : List Json) :
    areAllowed (rowsOfItems (Tree.ofJsonItems items)) = items.all fun v =>
      areAllowed (rowsOf (.ofJson v)) := by
  induction items with
  | nil => rfl
  | cons v r ih =>
      rw [Tree.ofJsonItems, rowsOfItems, areAllowed_append, areAllowed_dashed, ih, List.all_cons]

theorem allowed_entry (k : Text) (v : Tree) :
    areAllowed (if isBlock v then (keyText (.string k) ++ [':']) :: (rowsOf v).map fun row =>
      ' ' :: ' ' :: row
      else [keyText (.string k) ++ ':' :: ' ' :: scalar v]) =
        (k.all isWritable && areAllowed (rowsOf v)) := by
  have hcolon : isAllowed ':' = true := rfl
  have hblank : isAllowed ' ' = true := rfl
  cases hblock : isBlock v with
  | true =>
    rw [if_pos rfl, areAllowed_cons, areAllowed_indented, List.all_append, allowed_keyText]
    simp [hcolon]
  | false =>
    rw [if_neg Bool.false_ne_true, rowsOf_scalar hblock]
    simp only [areAllowed, List.all_cons, List.all_nil, List.all_append, allowed_keyText, hcolon,
      hblank, Bool.true_and, Bool.and_true]

theorem allowed_rowsOfEntries (members : List (Text × Json)) :
    areAllowed (rowsOfEntries (Tree.ofJsonMembers members)) =
      members.all fun m => m.1.all isWritable && areAllowed (rowsOf (.ofJson m.2)) := by
  induction members with
  | nil => rfl
  | cons m r ih =>
      rw [Tree.ofJsonMembers, rowsOfEntries, areAllowed_append, allowed_entry, ih, List.all_cons]

theorem allowed_array (items : List Json) :
    areAllowed (rowsOf (.ofJson (.array items))) = items.all fun v =>
      areAllowed (rowsOf (.ofJson v)) := by
  cases items with
  | nil => rfl
  | cons v r => exact allowed_rowsOfItems (v :: r)

theorem allowed_object (members : List (Text × Json)) :
    areAllowed (rowsOf (.ofJson (.object members))) =
      members.all fun m => m.1.all isWritable && areAllowed (rowsOf (.ofJson m.2)) := by
  cases members with
  | nil => rfl
  | cons m r => exact allowed_rowsOfEntries (m :: r)

/-! ## Values that survive -/

/-- A string is read back as it is: each character may be written, and no line break is lost. -/
def survives (t : Text) : Bool := t.all isWritable && isLegible t

/-- A key is read back as it is: each character may be written, the key stands on one line and is
not too long, and it is no word for null or a boolean. -/
def survivesAsKey (k : Text) : Bool := k.all isWritable && isKeyLegible k && !k.isOneOf reservedKeys

/-- Each string and each key is read back as it is. -/
inductive Survives : Json → Prop where
  | null : Survives .null
  | bool (b : Bool) : Survives (.bool b)
  | number (n : Number) : Survives (.number n)
  | string (t : Text) (h : survives t = true) : Survives (.string t)
  | array (items : List Json) (h : ∀ v ∈ items, Survives v) : Survives (.array items)
  | object (members : List (Text × Json)) (hkeys : ∀ m ∈ members, survivesAsKey m.1 = true)
    (h : ∀ m ∈ members, Survives m.2) : Survives (.object members)

theorem survivesAsKey_iff {k : Text} :
    survivesAsKey k = true ↔
      k.all isWritable = true ∧ isKeyLegible k = true ∧ isTextKey k = true := by
  rw [survivesAsKey, isTextKey_eq, Bool.and_eq_true, Bool.and_eq_true, and_assoc]

theorem Survives.parts {v : Json} (h : Survives v) (hfinite : Json.IsFinite v) :
    areAllowed (rowsOf (.ofJson v)) = true ∧ v.IsLegible ∧ Settles v := by
  induction h with
  | null => exact ⟨rfl, .null, .null⟩
  | bool b => exact ⟨by cases b <;> rfl, .bool b, .bool b⟩
  | number n =>
    cases hfinite with
    | number _ hn =>
      have hword := allowed_word (isWord_spec (isWord_numberText n)).1
      exact ⟨by rw [Tree.ofJson, rowsOf, areAllowed_cons, scalar, hword]; rfl, .number n,
        .number n hn⟩
  | string t h =>
    obtain ⟨hwritable, hlegible⟩ := Bool.and_eq_true_iff.mp h
    refine ⟨?_, .string t hlegible, .string t⟩
    rw [Tree.ofJson, rowsOf, areAllowed_cons, scalar, allowed_quote, hwritable]
    rfl
  | array items _ ih =>
    cases hfinite with
    | array _ hfinite =>
      have hparts := fun v hv => ih v hv (hfinite v hv)
      refine ⟨?_, .array items fun v hv => (hparts v hv).2.1, .array items fun v hv =>
        (hparts v hv).2.2⟩
      rw [allowed_array, List.all_eq_true]
      exact fun v hv => (hparts v hv).1
  | object members hkeys _ ih =>
    cases hfinite with
    | object _ hfinite =>
      have hparts := fun m hm => ih m hm (hfinite m hm)
      have hkey := fun m hm => survivesAsKey_iff.mp (hkeys m hm)
      refine ⟨?_, .object members (fun m hm => (hkey m hm).2.1) fun m hm => (hparts m hm).2.1,
        .object members (fun m hm => (hkey m hm).2.2) fun m hm => (hparts m hm).2.2⟩
      rw [allowed_object, List.all_eq_true]
      exact fun m hm => Bool.and_eq_true_iff.mpr ⟨(hkey m hm).1, (hparts m hm).1⟩

theorem Survives.of_parts {v : Json} (hallowed : areAllowed (rowsOf (.ofJson v)) = true)
    (hlegible : v.IsLegible)
    (hsettles : Settles v) : Survives v := by
  induction hsettles with
  | null => exact .null
  | bool b => exact .bool b
  | number n _ => exact .number n
  | string t =>
    cases hlegible with
    | string _ hlegible =>
      rw [Tree.ofJson, rowsOf, areAllowed_cons, scalar, allowed_quote, Bool.and_eq_true] at hallowed
      exact .string t (Bool.and_eq_true_iff.mpr ⟨hallowed.1, hlegible⟩)
  | array items _ ih =>
    cases hlegible with
    | array _ hlegible =>
      rw [allowed_array, List.all_eq_true] at hallowed
      exact .array items fun v hv => ih v hv (hallowed v hv) (hlegible v hv)
  | object members hkeys _ ih =>
    cases hlegible with
    | object _ hlegibleKeys hlegible =>
      rw [allowed_object, List.all_eq_true] at hallowed
      have hallowed := fun m hm => Bool.and_eq_true_iff.mp (hallowed m hm)
      exact .object members
        (fun m hm => survivesAsKey_iff.mpr ⟨(hallowed m hm).1, hlegibleKeys m hm, hkeys m hm⟩)
        fun m hm => ih m hm (hallowed m hm).2 (hlegible m hm)

/-! ## Trees -/

namespace Tree

/-- The tree has no tags, its keys are strings, and no mapping has a key twice. Its numbers are
integers or finite doubles. -/
inductive IsTextKeyed : Tree → Prop where
  | null : IsTextKeyed .null
  | bool (b : Bool) : IsTextKeyed (.bool b)
  | number (n : Number) (h : Scalar.isFiniteNumber n = true) : IsTextKeyed (.number n)
  | string (t : Text) : IsTextKeyed (.string t)
  | sequence (items : List Tree) (h : ∀ v ∈ items, IsTextKeyed v) : IsTextKeyed (.sequence items)
  | mapping (entries : List (Tree × Tree)) (hkeys : ∀ e ∈ entries, ∃ k, e.1 = .string k)
    (hnodup : (entries.map Prod.fst).Nodup) (h : ∀ e ∈ entries, IsTextKeyed e.2) :
      IsTextKeyed (.mapping entries)

theorem toJsonItems_eq (items : List Tree) : toJsonItems items = items.map toJson := by
  induction items with
  | nil => rfl
  | cons v r ih => rw [toJsonItems, ih, List.map_cons]

theorem toJsonMembers_eq (entries : List (Tree × Tree)) :
    toJsonMembers entries = entries.map fun e => (e.1.text?.getD [], toJson e.2) := by
  induction entries with
  | nil => rfl
  | cons e r ih => rw [toJsonMembers, ih, List.map_cons]

theorem toJson_ofJson (v : Json) : (ofJson v).toJson = v := by
  induction v using Json.induct with
  | array items ih =>
    have hitems : items.map (toJson ∘ ofJson) = items.map id := List.map_congr_left ih
    rw [ofJson, toJson, toJsonItems_eq, ofJsonItems_eq, List.map_map, hitems, List.map_id]
  | object members ih =>
    have hmembers : members.map (fun m => (m.1, (ofJson m.2).toJson)) = members.map id :=
      List.map_congr_left fun m hm => Prod.ext rfl (ih m hm)
    rw [ofJson, toJson, toJsonMembers_eq, ofJsonMembers_eq, List.map_map]
    exact congrArg Json.object (hmembers.trans (List.map_id members))
  | _ => rfl

theorem ofJson_inj {v w : Json} (h : ofJson v = ofJson w) : v = w := by
  rw [← toJson_ofJson v, h, toJson_ofJson]

theorem IsTextKeyed.ofJson_toJson {v : Tree} (h : v.IsTextKeyed) : ofJson v.toJson = v := by
  induction h with
  | sequence items _ ih =>
    have hitems : items.map (ofJson ∘ toJson) = items.map id := List.map_congr_left ih
    rw [toJson, ofJson, toJsonItems_eq, ofJsonItems_eq, List.map_map, hitems, List.map_id]
  | mapping entries hkeys _ _ ih =>
    have hkey : ∀ e ∈ entries, Tree.string (e.1.text?.getD []) = e.1 := by
      intro e he
      obtain ⟨k, hk⟩ := hkeys e he
      rw [hk]
      rfl
    have hentries : entries.map (fun e => (Tree.string (e.1.text?.getD []), ofJson e.2.toJson)) =
        entries.map id :=
      List.map_congr_left fun e he => Prod.ext (hkey e he) (ih e he)
    rw [toJson, ofJson, toJsonMembers_eq, ofJsonMembers_eq, List.map_map]
    exact congrArg Tree.mapping (hentries.trans (List.map_id entries))
  | _ => rfl

theorem IsTextKeyed.members {members : List (Text × Json)}
    (h : (ofJson (.object members)).IsTextKeyed) :
    (members.map Prod.fst).Nodup ∧ ∀ m ∈ members, (ofJson m.2).IsTextKeyed := by
  rw [ofJson, ofJsonMembers_eq] at h
  cases h with
  | mapping _ _ hnodup h =>
    rw [List.map_map] at hnodup
    have hkeys : ((members.map Prod.fst).map Tree.string).Nodup := by rwa [List.map_map]
    exact ⟨hkeys.of_map, fun m hm => h _ (List.mem_map_of_mem hm)⟩

theorem IsTextKeyed.items {items : List Json} (h : (ofJson (.array items)).IsTextKeyed) :
    ∀ v ∈ items, (ofJson v).IsTextKeyed := by
  rw [ofJson, ofJsonItems_eq] at h
  cases h with
  | sequence _ h => exact fun v hv => h _ (List.mem_map_of_mem hv)

theorem IsTextKeyed.isFinite {v : Json} (h : (ofJson v).IsTextKeyed) : Json.IsFinite v := by
  induction v using Json.induct with
  | null => exact .null
  | bool b => exact .bool b
  | number n =>
    cases h with
    | number _ hn => exact .number n hn
  | string t => exact .string t
  | array items ih => exact .array items fun v hv => ih v hv (h.items v hv)
  | object members ih => exact .object members fun m hm => ih m hm (h.members.2 m hm)

end Tree

/-! ## The tree of a node -/

namespace Node

theorem hasKey_ofJsonMembers {k : Text} {members : List (Text × Json)}
    (h : k ∉ members.map Prod.fst) :
    hasKey (.string k) (Tree.ofJsonMembers members) = false := by
  rw [hasKey, Tree.ofJsonMembers_eq, List.any_map, List.any_eq_false]
  intro m hm heq
  exact h (List.mem_map.mpr ⟨m, hm, (Tree.string.inj (beq_iff_eq.mp heq)).symm⟩)

theorem treeItems?_eq (items : List Node) : treeItems? items = items.mapM tree? := by
  induction items with
  | nil => rfl
  | cons n r ih => rw [treeItems?, ih, List.mapM_cons]

theorem treeEntries?_entriesOf {members : List (Text × Json)}
    (hkeys : ∀ m ∈ members, isTextKey m.1 = true)
    (hnodup : (members.map Prod.fst).Nodup)
    (h : ∀ m ∈ members, (nodeOf m.2).tree? = some (.ofJson m.2)) :
    treeEntries? (entriesOf members) = some (Tree.ofJsonMembers members) := by
  induction members with
  | nil => rfl
  | cons m r ih =>
    obtain ⟨hfresh, hrest⟩ := List.nodup_cons.mp hnodup
    have hkey : (Node.scalar none (keyStyle m.1) m.1).tree? = some (.string m.1) :=
      content?_key (hkeys m (by simp))
    rw [entriesOf, treeEntries?, hkey, h m (by simp),
      ih (fun u hu => hkeys u (by simp [hu])) hrest fun u hu => h u (by simp [hu])]
    simp only [Option.bind_eq_bind, Option.bind_some, hasKey_ofJsonMembers hfresh,
      Bool.false_eq_true, if_false]
    rfl

/-- The node of a value is read as its tree when each key is read as a string and stands there
once. -/
theorem tree?_nodeOf {v : Json} (h : Settles v) (hkeyed : (Tree.ofJson v).IsTextKeyed) :
    (nodeOf v).tree? = some (.ofJson v) := by
  induction h with
  | null => rfl
  | bool b => cases b <;> rfl
  | string t => rfl
  | number n h => exact scalarValue?_number h
  | array items _ ih =>
    rw [nodeOf, tree?, treeItems?_eq, nodesOf_eq, List.mapM_map,
      mapM_of_some (f := tree? ∘ nodeOf) fun v hv => ih v hv (hkeyed.items v hv), Tree.ofJson,
      Tree.ofJsonItems_eq]
    rfl
  | object members hkeys _ ih =>
    obtain ⟨hnodup, hvalues⟩ := hkeyed.members
    rw [nodeOf, tree?, treeEntries?_entriesOf hkeys hnodup fun m hm => ih m hm (hvalues m hm)]
    rfl

/-! ### Only as itself -/

theorem eq_of_treeItems? {items found : List Json}
    (ih : ∀ v ∈ items, ∀ u, (nodeOf v).tree? = some (.ofJson u) → u = v ∧ Settles v)
    (h : treeItems? (nodesOf items) = some (Tree.ofJsonItems found)) :
    found = items ∧ ∀ v ∈ items, Settles v := by
  induction items generalizing found with
  | nil =>
    cases found with
    | nil => exact ⟨rfl, by simp⟩
    | cons u us => exact absurd (Option.some.inj h) (by simp [Tree.ofJsonItems])
  | cons v r ihr =>
    obtain ⟨t, ht, hrest⟩ := Option.bind_eq_some_iff.mp h
    obtain ⟨l, hl, heq⟩ := Option.bind_eq_some_iff.mp hrest
    cases found with
    | nil => exact absurd (Option.some.inj heq) (by simp [Tree.ofJsonItems])
    | cons u us =>
      obtain ⟨rfl, rfl⟩ := List.cons.inj (Option.some.inj heq)
      obtain ⟨rfl, hu⟩ := ih v (by simp) u ht
      obtain ⟨rfl, hus⟩ := ihr (fun w hw => ih w (by simp [hw])) hl
      exact ⟨rfl, List.forall_mem_cons.mpr ⟨hu, hus⟩⟩

theorem eq_of_treeEntries? {members found : List (Text × Json)}
    (ih : ∀ m ∈ members, ∀ u, (nodeOf m.2).tree? = some (.ofJson u) → u = m.2 ∧ Settles m.2)
    (h : treeEntries? (entriesOf members) = some (Tree.ofJsonMembers found)) :
    found = members ∧ (∀ m ∈ members, isTextKey m.1 = true) ∧ ∀ m ∈ members, Settles m.2 := by
  induction members generalizing found with
  | nil =>
    cases found with
    | nil => exact ⟨rfl, by simp, by simp⟩
    | cons u us => exact absurd (Option.some.inj h) (by simp [Tree.ofJsonMembers])
  | cons m r ihr =>
    obtain ⟨k, hk, hvalue⟩ := Option.bind_eq_some_iff.mp h
    obtain ⟨t, ht, hrest⟩ := Option.bind_eq_some_iff.mp hvalue
    obtain ⟨l, hl, hfresh⟩ := Option.bind_eq_some_iff.mp hrest
    split at hfresh
    · exact absurd hfresh (by simp)
    cases found with
    | nil => exact absurd (Option.some.inj hfresh) (by simp [Tree.ofJsonMembers])
    | cons u us =>
      obtain ⟨heq, rfl⟩ := List.cons.inj (Option.some.inj hfresh)
      obtain ⟨rfl, rfl⟩ := Prod.mk.inj heq
      have hkey : u.1 = m.1 := eq_of_scalarValue?_key hk
      obtain ⟨hu, hsettles⟩ := ih m (by simp) u.2 ht
      obtain ⟨rfl, hkeys, hus⟩ := ihr (fun w hw => ih w (by simp [hw])) hl
      refine ⟨by rw [← Prod.ext hkey hu], List.forall_mem_cons.mpr ⟨?_, hkeys⟩,
        List.forall_mem_cons.mpr ⟨hsettles, hus⟩⟩
      rw [hkey] at hk
      exact beq_iff_eq.mpr hk

theorem eq_of_tree?_nodeOf {v : Json} (hfinite : Json.IsFinite v) {u : Json}
    (h : (nodeOf v).tree? = some (.ofJson u)) : u = v ∧ Settles v := by
  induction hfinite generalizing u with
  | null => exact ⟨Tree.ofJson_inj (Option.some.inj h).symm, .null⟩
  -- Scalars are read as themselves, so only the trees are left to compare.
  | bool b =>
    have hread : (nodeOf (.bool b)).tree? = some (.ofJson (.bool b)) := by cases b <;> rfl
    rw [hread] at h
    exact ⟨Tree.ofJson_inj (Option.some.inj h).symm, .bool b⟩
  | number n hn =>
    have hread : (nodeOf (.number n)).tree? = some (.ofJson (.number n)) := scalarValue?_number hn
    rw [hread] at h
    exact ⟨Tree.ofJson_inj (Option.some.inj h).symm, .number n hn⟩
  | string t => exact ⟨Tree.ofJson_inj (Option.some.inj h).symm, .string t⟩
  | array items _ ih =>
    obtain ⟨l, hl, heq⟩ := Option.bind_eq_some_iff.mp h
    cases u with
    | array found =>
      obtain rfl := Tree.sequence.inj (Option.some.inj heq)
      obtain ⟨rfl, hall⟩ := eq_of_treeItems? (fun v hv u => ih v hv) hl
      exact ⟨rfl, .array found hall⟩
    | _ => exact absurd (Option.some.inj heq) (by simp [Tree.ofJson])
  | object members _ ih =>
    obtain ⟨l, hl, heq⟩ := Option.bind_eq_some_iff.mp h
    cases u with
    | object found =>
      obtain rfl := Tree.mapping.inj (Option.some.inj heq)
      obtain ⟨rfl, hkeys, hall⟩ := eq_of_treeEntries? (fun m hm u => ih m hm) hl
      exact ⟨rfl, .object found hkeys hall⟩
    | _ => exact absurd (Option.some.inj heq) (by simp [Tree.ofJson])

end Node

/-! ## Documents -/

/-- The block of an untagged tree is read as this tree exactly when each string and each key of it
is read back and not too many collections are inside each other. -/
theorem block_read_back_iff {v : Tree} (h : v.IsTextKeyed) :
    (Node.read? (block 0 v)).bind Node.tree? = some v ↔
      Survives v.toJson ∧ nesting v.toJson ≤ Node.depthLimit := by
  obtain ⟨j, rfl⟩ : ∃ j, v = .ofJson j := ⟨v.toJson, h.ofJson_toJson.symm⟩
  have hfinite := h.isFinite
  have hallowed : (block 0 (.ofJson j)).all isAllowed = areAllowed (rowsOf (.ofJson j)) := by
    rw [block_eq_typeset, allowed_typeset]
  rw [Tree.toJson_ofJson, Node.read?_block, hallowed]
  constructor
  · intro hread
    obtain ⟨node, hnode, htree⟩ := Option.bind_eq_some_iff.mp hread
    split at hnode
    · rename_i hwritten
      obtain ⟨w, hw, hshallow⟩ := Option.bind_eq_some_iff.mp hnode
      split at hshallow
      · rename_i hnesting
        obtain rfl := Option.some.inj hshallow
        -- What is read differs from what was written in strings only, and its tree is the one
        -- written.
        have hfinite' : Json.IsFinite w := by
          rw [Json.rereadValue?_eq hw]
          exact hfinite.mapTexts Json.rereadOrSame
        obtain ⟨rfl, hsettles⟩ := Node.eq_of_tree?_nodeOf hfinite' htree
        exact ⟨.of_parts hwritten (Json.rereadValue?_eq_self.mp hw) hsettles, hnesting⟩
      · exact absurd hshallow (by simp)
    · exact absurd hnode (by simp)
  · rintro ⟨hsurvives, hnesting⟩
    obtain ⟨hwritten, hlegible, hsettles⟩ := hsurvives.parts hfinite
    rw [if_pos hwritten, Json.rereadValue?_eq_self.mpr hlegible, Option.bind_some, if_pos hnesting,
      Option.bind_some]
    exact Node.tree?_nodeOf hsettles h

/-- A tree with a quoted key, a key that is a word of other notations only, and a string of two
lines. -/
theorem lists_read_back :
    let v : Tree :=
  .mapping [(.string "base url", .sequence [.string "two\nlines", .null]),
      (.string "on", .bool true)]
    v.IsTextKeyed ∧ (Node.read? (block 0 v)).bind Node.tree? = some v := by
  intro v
  have hlist : (Tree.sequence [.string "two\nlines", .null]).IsTextKeyed :=
    .sequence _ (by simpa using ⟨.string _, .null⟩)
  have hkeyed : v.IsTextKeyed :=
    .mapping _ (by simp) (by decide) (by simpa using ⟨hlist, .bool true⟩)
  refine ⟨hkeyed, (block_read_back_iff hkeyed).mpr ⟨?_, by decide⟩⟩
  have hitems : Survives (.array [.string "two\nlines", .null]) :=
    .array _ (by simpa using ⟨.string _ (by decide), .null⟩)
  exact .object [("base url", _), ("on", _)] (by decide) (by simpa using ⟨hitems, .bool true⟩)

/-- A key that is a word for a boolean is written without quotes and read as the boolean. -/
theorem word_key_not_read_back :
    let v : Tree := .mapping [(.string "True", .number (.ofUInt32 1))]
    v.IsTextKeyed ∧ block 0 v = "True: 1\n".toList ∧
      (Node.read? (block 0 v)).bind Node.tree? =
        some (.mapping [(.bool true, .number (.ofUInt32 1))]) ∧
      (Node.read? (block 0 v)).bind Node.tree? ≠ some v := by
  intro v
  have hkeyed : v.IsTextKeyed := .mapping _ (by simp) (by decide) (by simpa using .number _ rfl)
  exact ⟨hkeyed, by decide +kernel, by decide +kernel, by decide +kernel⟩

end Scenarist.Yaml

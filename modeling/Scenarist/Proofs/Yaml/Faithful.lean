import Scenarist.Proofs.Json.Canonical
import Scenarist.Proofs.Outcome
import Scenarist.Proofs.Yaml.Nodes
import Scenarist.Selector.Document

/-! # Faithful nodes

A value that is read from a document has a node of its own, and one that comes from elsewhere has
another. Typed readers get back from both what the value holds.
-/

namespace Scenarist.Yaml

open Node

/-! ## Values whose content is read as it is -/

/-- The key is read as a string when no type is known for it. -/
def isTextKey (k : Text) : Bool := scalarValue? none (keyStyle k) k == some (.string k)

/-- All numbers are finite, and all keys are read as strings. -/
inductive Settles : Json → Prop where
  | null : Settles .null
  | bool (b : Bool) : Settles (.bool b)
  | number (n : Number) (h : Scalar.isFiniteNumber n = true) : Settles (.number n)
  | string (t : Text) : Settles (.string t)
  | array (items : List Json) (h : ∀ v ∈ items, Settles v) : Settles (.array items)
  | object (members : List (Text × Json)) (hkeys : ∀ m ∈ members, isTextKey m.1 = true)
    (h : ∀ m ∈ members, Settles m.2) : Settles (.object members)

/-- What typed readers get from the nodes of values. -/
structure Faithful (e : Json → Node) : Prop where
  text (t : Text) : (e (.string t)).text? = some t
  choice (t : Text) : (e (.string t)).choice? = some t
  bool (b : Bool) : (e (.bool b)).bool? = some b
  uint32 (n : UInt32) : (e (.number (.ofUInt32 n))).uint32? = some n
  int32 (n : Int32) : (e (.number (.ofInt32 n))).int32? = some n
  items (l : List Json) : (e (.array l)).items? = some (l.map e)
  fields (names : List Text) (members : List (Text × Json)) :
    ∃ keyNode : Text → Node,
      (e (.object members)).entries? = some (members.map fun m => (keyNode m.1, e m.2)) ∧
        ∀ k, fieldName? names (keyNode k) = some (if k.isOneOf names then k else [])
  record (names : List Text) (members : List (Text × Json)) :
    (e (.object members)).record? names = (e (.object members)).mapped? names
  absent {v : Json} (hv : v ≠ .null) (h : Json.IsFinite v) : (e v).isAbsent? = some false
  content {v : Json} (h : Settles v) : (e v).content? = some (.ofJson v)
  tagged (key word : Text) (rest : List (Text × Json))
    (h : Settles (.object ((key, .string word) :: rest)))
    (hkey : ∀ m ∈ rest, m.1 ≠ key) :
    (e (.object ((key, .string word) :: rest))).tagged? key = some (word, .ofJson (.object rest))
  json {v : Json} (h : Json.IsCanonical v) : (e v).json? = some v
  height_pos (v : Json) : 0 < (e v).height
  height {members : List (Text × Json)} {m : Text × Json} (h : m ∈ members) :
    (e m.2).height < (e (.object members)).height

/-! ## Settled values -/

theorem Tree.ofJsonItems_eq (items : List Json) : ofJsonItems items = items.map ofJson := by
  induction items with
  | nil => rfl
  | cons v r ih => rw [ofJsonItems, ih, List.map_cons]

theorem Tree.ofJsonMembers_eq (members : List (Text × Json)) :
    ofJsonMembers members = members.map fun m => (.string m.1, ofJson m.2) := by
  induction members with
  | nil => rfl
  | cons e r ih => rw [ofJsonMembers, ih, List.map_cons]

theorem nodesOf_eq (items : List Json) : nodesOf items = items.map nodeOf := by
  induction items with
  | nil => rfl
  | cons v r ih => rw [nodesOf, ih, List.map_cons]

theorem entriesOf_eq (members : List (Text × Json)) :
    entriesOf members = members.map fun m => (.scalar none (keyStyle m.1) m.1, nodeOf m.2) := by
  induction members with
  | nil => rfl
  | cons e r ih => rw [entriesOf, ih, List.map_cons]

theorem toUInt32?_ofUInt32 (n : UInt32) : (Number.ofUInt32 n).toUInt32? = some n := by
  have hlt := n.toNat_lt
  rw [Number.ofUInt32, Number.toUInt32?, Number.toInt?, Option.bind_some, if_pos (by omega)]
  simp

theorem toInt32?_ofInt32 (n : Int32) : (Number.ofInt32 n).toInt32? = some n := by
  have hle := n.le_toInt
  have hlt := n.toInt_lt
  rw [Number.ofInt32, Number.toInt32?, Number.toInt?, Option.bind_some, if_pos (by omega)]
  simp

/-! ## JSON values -/

theorem finiteNumber_eq {n : Number} (h : Scalar.isFiniteNumber n = true) :
    finiteNumber n = .number n := by
  cases n with
  | integer n => rfl
  | real x => exact if_pos h

theorem jsonOfItems?_eq (items : List Tree) : jsonOfItems? items = items.mapM jsonOfTree? := by
  induction items with
  | nil => rfl
  | cons v r ih => rw [jsonOfItems?, ih, List.mapM_cons]

theorem jsonOfEntries?_ofJsonMembers (members : List (Text × Json)) :
    jsonOfEntries? (Tree.ofJsonMembers members) =
      members.mapM fun m => (jsonOfTree? (.ofJson m.2)).map (m.1, ·) := by
  induction members with
  | nil => rfl
  | cons m r ih =>
    rw [Tree.ofJsonMembers, jsonOfEntries?, ih, List.mapM_cons]
    cases jsonOfTree? (.ofJson m.2) <;> rfl

theorem jsonOfTree?_ofJson {v : Json} (h : Json.IsCanonical v) :
    jsonOfTree? (.ofJson v) = some v := by
  induction h with
  | null => rfl
  | bool b => rfl
  | string t => rfl
  | number n h => rw [Tree.ofJson, jsonOfTree?, finiteNumber_eq h]
  | array items _ ih =>
    rw [Tree.ofJson, jsonOfTree?, jsonOfItems?_eq, Tree.ofJsonItems_eq, List.mapM_map,
      mapM_of_some_self (f := jsonOfTree? ∘ Tree.ofJson) ih]
    rfl
  | object members hkeys _ ih =>
    rw [Tree.ofJson, jsonOfTree?, jsonOfEntries?_ofJsonMembers,
      mapM_of_some_self fun m hm => by rw [ih m hm, Option.map_some], Option.map_some,
      Json.ofMembers_of_ascending hkeys]

theorem scalarValue?_number {n : Number} (h : Scalar.isFiniteNumber n = true) :
    scalarValue? none .plain (scalar (.number n)) = some (.number n) := Scalar.value?_numberText h

theorem jsonItems?_eq (items : List Node) : jsonItems? items = items.mapM json? := by
  induction items with
  | nil => rfl
  | cons v r ih => rw [jsonItems?, ih, List.mapM_cons]

theorem jsonMembers?_entriesOf (members : List (Text × Json)) :
    jsonMembers? (entriesOf members) = members.mapM fun m => (nodeOf m.2).json?.map (m.1, ·) := by
  induction members with
  | nil => rfl
  | cons m r ih =>
    rw [entriesOf, jsonMembers?, ih, List.mapM_cons]
    cases (nodeOf m.2).json? <;> rfl

theorem json?_nodeOf {v : Json} (h : Json.IsCanonical v) : (nodeOf v).json? = some v := by
  induction h with
  | null => rfl
  | bool b => cases b <;> rfl
  | string t => rfl
  | number n h =>
    rw [nodeOf, json?, scalarValue?_number h]
    simp [ownTag?, jsonScalar?, finiteNumber_eq h]
  | array items _ ih =>
    rw [nodeOf, json?, jsonItems?_eq, nodesOf_eq, List.mapM_map,
      mapM_of_some_self (f := json? ∘ nodeOf) ih]
    rfl
  | object members hkeys _ ih =>
    rw [nodeOf, json?, jsonMembers?_entriesOf, mapM_of_some_self fun m hm =>
      by rw [ih m hm, Option.map_some], Option.map_some, Json.ofMembers_of_ascending hkeys]
    rfl

/-! ## Content -/

theorem content?_key {k : Text} (h : isTextKey k = true) :
    (Node.scalar none (keyStyle k) k).content? = some (.string k) := beq_iff_eq.mp h

theorem contentItems?_eq (items : List Node) : contentItems? items = items.mapM content? := by
  induction items with
  | nil => rfl
  | cons v r ih => rw [contentItems?, ih, List.mapM_cons]

theorem contentEntries?_entriesOf {members : List (Text × Json)}
    (h : ∀ m ∈ members, isTextKey m.1 = true) :
    contentEntries? (entriesOf members) = members.mapM fun m =>
      (nodeOf m.2).content?.map (.string m.1, ·) := by
  induction members with
  | nil => rfl
  | cons m r ih =>
    rw [entriesOf, contentEntries?, content?_key (h m (by simp)), ih fun u hu => h u (by simp [hu]),
      List.mapM_cons]
    cases (nodeOf m.2).content? <;> rfl

theorem content?_nodeOf {v : Json} (h : Settles v) : (nodeOf v).content? = some (.ofJson v) := by
  induction h with
  | null => rfl
  | bool b => cases b <;> rfl
  | string t => rfl
  | number n h =>
    rw [nodeOf, content?, scalarValue?_number h]
    rfl
  | array items _ ih =>
    rw [nodeOf, content?, contentItems?_eq, nodesOf_eq, List.mapM_map,
      mapM_of_some (f := content? ∘ nodeOf) ih, Tree.ofJson, Tree.ofJsonItems_eq]
    rfl
  | object members hkeys _ ih =>
    rw [nodeOf, content?, contentEntries?_entriesOf hkeys,
      mapM_of_some fun m hm => by rw [ih m hm, Option.map_some], Tree.ofJson, Tree.ofJsonMembers_eq]
    rfl

/-! ## Tagged records -/

theorem takeUnder?_first {key : Text} {found : Node} {rest : List (Text × Json)} (f : Json → Node)
    (hkey : ∀ m ∈ rest, m.1 ≠ key) :
    takeUnder? key ((.string key, found) :: rest.map fun m => (.string m.1, f m.2)) =
      some (found, rest.map fun m => (.string m.1, f m.2)) := by
  rw [takeUnder?, if_pos rfl, if_neg]
  rw [Bool.not_eq_true, List.any_eq_false]
  intro e he
  obtain ⟨m, hm, rfl⟩ := List.mem_map.mp he
  rw [beq_iff_eq]
  exact fun h => hkey m hm (Tree.string.inj h)

theorem settled_rest {key word : Text} {rest : List (Text × Json)}
    (h : Settles (.object ((key, .string word) :: rest))) :
    isTextKey key = true ∧ (∀ m ∈ rest, isTextKey m.1 = true) ∧ ∀ m ∈ rest, Settles m.2 := by
  cases h with
  | object members hkeys h =>
    exact ⟨hkeys _ List.mem_cons_self, fun m hm => hkeys m (List.mem_cons_of_mem _ hm),
      fun m hm => h m (List.mem_cons_of_mem _ hm)⟩

theorem ofJson_object (members : List (Text × Json)) :
    ofJson (.object members) =
      .value (.mapping (members.map fun m => (.string m.1, .ofJson m.2))) := by
  rw [ofJson, Tree.ofJson, Tree.ofJsonMembers_eq]

theorem tagged?_nodeOf {key word : Text} {rest : List (Text × Json)}
    (h : Settles (.object ((key, .string word) :: rest))) (hkey : ∀ m ∈ rest, m.1 ≠ key) :
    (nodeOf (.object ((key, .string word) :: rest))).tagged? key =
      some (word, ofJson (.object rest)) := by
  obtain ⟨htag, hkeys, hvalues⟩ := settled_rest h
  rw [nodeOf, entriesOf_eq, List.map_cons, tagged?, List.mapM_cons, List.mapM_map,
    mapM_of_some (g := fun m => (Tree.string m.1, nodeOf m.2)) fun m hm => by
      simp only [Function.comp, content?_key (hkeys m hm)]
      rfl]
  simp only [content?_key htag]
  change ((takeUnder? key ((.string key, nodeOf (.string word)) ::
    rest.map fun m => (.string m.1, nodeOf m.2))).bind _) = _
  rw [takeUnder?_first nodeOf hkey, Option.bind_some]
  dsimp only
  rw [List.mapM_map, mapM_of_some (g := fun m => (Tree.string m.1, Tree.ofJson m.2)) fun m hm => by
      simp only [Function.comp, content?_nodeOf (hvalues m hm)]
      rfl, ofJson_object]
  rfl

theorem tagged?_ofJson {key word : Text} {rest : List (Text × Json)}
    (hkey : ∀ m ∈ rest, m.1 ≠ key) :
    (ofJson (.object ((key, .string word) :: rest))).tagged? key =
      some (word, ofJson (.object rest)) := by
  rw [ofJson, Tree.ofJson, tagged?, Tree.ofJsonMembers_eq, List.map_map, List.map_cons]
  change ((takeUnder? key ((.string key, ofJson (.string word)) ::
    rest.map fun m => (.string m.1, ofJson m.2))).bind _) = _
  rw [takeUnder?_first ofJson hkey, Option.bind_some]
  dsimp only
  rw [List.mapM_map, mapM_of_some (g := fun m => (Tree.string m.1, Tree.ofJson m.2)) fun m _ =>
    by rfl, ofJson_object]
  rfl

theorem itemsHeight_le {members : List (Text × Json)} {m : Text × Json} (h : m ∈ members) :
    (nodeOf m.2).height ≤ entriesHeight (entriesOf members) ∧
      (Tree.ofJson m.2).height ≤ Tree.entriesHeight (Tree.ofJsonMembers members) := by
  induction members with
  | nil => exact absurd h List.not_mem_nil
  | cons u r ih =>
    rw [entriesOf, entriesHeight, Tree.ofJsonMembers, Tree.entriesHeight]
    rcases List.mem_cons.mp h with rfl | h
    · exact ⟨Nat.le_max_left _ _, Nat.le_max_left _ _⟩
    · exact ⟨Nat.le_trans (ih h).1 (Nat.le_max_right _ _),
        Nat.le_trans (ih h).2 (Nat.le_max_right _ _)⟩

/-! ## Words of the document -/

theorem uint32?_nodeOf (n : UInt32) : (nodeOf (.number (.ofUInt32 n))).uint32? = some n := by
  have hread : Scalar.natural? (Text.ofInt n.toNat) = some n.toNat := Scalar.natural?_ofNat n.toNat
  have hrange : Number.ofInt? n.toNat = some (.ofUInt32 n) := dif_pos _
  change ((Scalar.natural? (Text.ofInt n.toNat)).bind fun k =>
    (Number.ofInt? k).bind Number.toUInt32?) = some n
  rw [hread, Option.bind_some, hrange, Option.bind_some, toUInt32?_ofUInt32]

theorem int32?_nodeOf (n : Int32) : (nodeOf (.number (.ofInt32 n))).int32? = some n := by
  have hrange : Number.ofInt? n.toInt = some (.ofInt32 n) := dif_pos _
  change ((Scalar.integer? (Text.ofInt n.toInt)).bind fun k =>
    (Number.ofInt? k).bind Number.toInt32?) = some n
  rw [Scalar.integer?_ofInt, Option.bind_some, hrange, Option.bind_some, toInt32?_ofInt32]

theorem isAbsent?_nodeOf {v : Json} (hv : v ≠ .null) (h : Json.IsFinite v) :
    (nodeOf v).isAbsent? = some false := by
  cases h with
  | null => exact absurd rfl hv
  | bool b => cases b <;> rfl
  | number n hn =>
    obtain ⟨hne, hnull, -⟩ := (Scalar.isNumeric_numberText hn).no_word
    change some (scalar (.number n) == [] || Scalar.isNullWord (scalar (.number n))) = some false
    rw [scalar, hnull, beq_false_of_ne hne]
    rfl
  | string t => rfl
  | array items _ => rfl
  | object members _ => rfl

/-! ## Both kinds of nodes -/

theorem faithful_nodeOf : Faithful nodeOf where
  text t := rfl
  choice t := rfl
  bool b := by cases b <;> rfl
  uint32 := uint32?_nodeOf
  int32 := int32?_nodeOf
  items l := by rw [nodeOf, nodesOf_eq]; rfl
  fields names members := by
    refine ⟨fun k => .scalar none (keyStyle k) k, ?_, fun k => rfl⟩
    rw [nodeOf, entriesOf_eq]
    rfl
  record names members := rfl
  absent := isAbsent?_nodeOf
  content := content?_nodeOf
  tagged key word rest := tagged?_nodeOf
  json := json?_nodeOf
  height_pos v := by cases v <;> simp [nodeOf, Node.height]
  height {members m} h := by
    have hle := (itemsHeight_le h).1
    rw [nodeOf, Node.height]
    omega

theorem faithful_ofJson : Faithful Node.ofJson where
  text t := rfl
  choice t := rfl
  bool b := rfl
  uint32 := toUInt32?_ofUInt32
  int32 := toInt32?_ofInt32
  items l := by
    rw [ofJson, Tree.ofJson, Tree.ofJsonItems_eq]
    simp [items?, ofJson]
  fields names members := by
    refine ⟨fun k => .value (.string k), ?_, fun k => rfl⟩
    rw [ofJson, Tree.ofJson, Tree.ofJsonMembers_eq]
    simp [entries?, ofJson]
  record names members := rfl
  absent {v} hv h := by
    cases v <;> first | exact absurd rfl hv | rfl
  content h := rfl
  tagged key word rest h hkey := tagged?_ofJson hkey
  json := jsonOfTree?_ofJson
  height_pos v := by cases v <;> simp [ofJson, Node.height, Tree.ofJson, Tree.height]
  height {members m} h := by
    have hle := (itemsHeight_le h).2
    rw [ofJson, Node.height, ofJson, Node.height, Tree.ofJson, Tree.height]
    omega

end Scenarist.Yaml

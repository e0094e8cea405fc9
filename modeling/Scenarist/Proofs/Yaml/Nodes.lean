import Scenarist.Proofs.Yaml.Tokens
import Scenarist.Yaml.Document

/-! # The node of a document

The tokens of a value are read as its node: a document in block layout has neither tags nor aliases.
Only the number of collections inside each other is limited.
-/

namespace Scenarist.Yaml

/-! ## Nodes of values -/

mutual

/-- The node that a value is written as. -/
def nodeOf : Json → Node
  | .string t => .scalar none .quoted t
  | .array items => .sequence none (nodesOf items)
  | .object members => .mapping none (entriesOf members)
  | .null => .scalar none .plain (scalar .null)
  | .bool b => .scalar none .plain (scalar (.bool b))
  | .number n => .scalar none .plain (scalar (.number n))

def nodesOf : List Json → List Node
  | [] => []
  | v :: r => nodeOf v :: nodesOf r

def entriesOf : List (Text × Json) → List (Node × Node)
  | [] => []
  | (k, v) :: r => (.scalar none (keyStyle k) k, nodeOf v) :: entriesOf r

end

mutual

/-- How many collections stand inside each other. -/
def nesting : Json → Nat
  | .array items => 1 + nestingItems items
  | .object members => 1 + nestingMembers members
  | .string _ => 0
  | .null => 0
  | .bool _ => 0
  | .number _ => 0

def nestingItems : List Json → Nat
  | [] => 0
  | v :: r => max (nesting v) (nestingItems r)

def nestingMembers : List (Text × Json) → Nat
  | [] => 0
  | (_, v) :: r => max (nesting v) (nestingMembers r)

end

/-- The token begins a value. -/
def Token.isOpening : Token → Bool
  | .scalar _ _ => true
  | .openSequence => true
  | .openMapping => true
  | .blockSequence => true
  | .blockMapping => true
  | _ => false

theorem tokensOf_cons (v : Json) : ∃ t r, tokensOf v = t :: r ∧ t.isOpening = true := by
  match v with
  | .null => exact ⟨_, _, rfl, rfl⟩
  | .bool _ => exact ⟨_, _, rfl, rfl⟩
  | .number _ => exact ⟨_, _, rfl, rfl⟩
  | .string _ => exact ⟨_, _, rfl, rfl⟩
  | .array [] => exact ⟨_, _, rfl, rfl⟩
  | .object [] => exact ⟨_, _, rfl, rfl⟩
  | .array (_ :: _) => exact ⟨_, _, rfl, rfl⟩
  | .object (_ :: _) => exact ⟨_, _, rfl, rfl⟩

theorem length_tokensOf_array (items : List Json) :
    (tokensOf (.array items)).length = (tokensOfItems items).length + 2 := by
  cases items with
  | nil => rfl
  | cons v r => simp [tokensOf]

theorem length_tokensOf_object (members : List (Text × Json)) :
    (tokensOf (.object members)).length = (tokensOfMembers members).length + 2 := by
  cases members with
  | nil => rfl
  | cons e r => simp [tokensOf]

/-! ## Reading -/

namespace Reading

/-- A reading in which nothing was marked. -/
def unmarked (handles : List (Text × Text)) (tokens : List Token) : Reading :=
  ⟨tokens, handles, [], []⟩

variable {handles : List (Text × Text)}

theorem node?_opening (n : Nat) (block indentless : Bool) {t : Token} (h : t.isOpening = true)
    (r : List Token) :
    node? (n + 1) block indentless (unmarked handles (t :: r)) =
      content? n block indentless false none (unmarked handles (t :: r)) := by
  have hmatch : node? (n + 1) block indentless (unmarked handles (t :: r)) =
      (content? n block indentless false none (unmarked handles (t :: r))).bind fun u =>
        some (u.1, u.2) := by
    cases t <;> first | rfl | exact absurd h Bool.false_ne_true
  rw [hmatch]
  cases content? n block indentless false none (unmarked handles (t :: r)) <;> rfl

theorem isAt_opening {t : Token} (h : t.isOpening = true) {ends : List Token}
    (hends : ends.all (fun e => !e.isOpening) = true) (r : List Token) :
    isAt ends (unmarked handles (t :: r)) = false := by
  change decide (t ∈ ends) = false
  rw [decide_eq_false_iff_not]
  intro hmem
  have := List.all_eq_true.mp hends t hmem
  rw [h] at this
  exact absurd this (by decide)

theorem nodeBefore?_opening (n : Nat) (block indentless : Bool) {t : Token} (h : t.isOpening = true)
    {ends : List Token} (hends : ends.all (fun e => !e.isOpening) = true) (r : List Token) :
    nodeBefore? (n + 1) block indentless ends (unmarked handles (t :: r)) =
      node? n block indentless (unmarked handles (t :: r)) := by
  rw [nodeBefore?, isAt_opening h hends, if_neg Bool.false_ne_true]

/-- The tokens of the value are read as its node, if there is fuel enough. -/
def Reads (v : Json) : Prop :=
  ∀ (fuel : Nat) (indentless : Bool) (handles : List (Text × Text)) (rest : List Token),
    4 * (tokensOf v).length ≤ fuel →
    node? fuel true indentless (unmarked handles (tokensOf v ++ rest)) =
      some (nodeOf v, unmarked handles rest)

theorem Reads.before {v : Json} (h : Reads v) {fuel : Nat}
    (hfuel : 4 * (tokensOf v).length + 1 ≤ fuel)
    (indentless : Bool) (ends : List Token) (hends : ends.all (fun e => !e.isOpening) = true)
    (rest : List Token) :
    nodeBefore? fuel true indentless ends (unmarked handles (tokensOf v ++ rest)) =
      some (nodeOf v, unmarked handles rest) := by
  obtain ⟨t, r, heq, ht⟩ := tokensOf_cons v
  obtain ⟨n, rfl⟩ : ∃ n, fuel = n + 1 := ⟨fuel - 1, by omega⟩
  have hread := h n indentless handles rest (by omega)
  rw [heq, List.cons_append] at hread ⊢
  rw [nodeBefore?_opening n true indentless ht hends, hread]

theorem blockItems?_tokensOf {items : List Json} (hall : ∀ v ∈ items, Reads v) {fuel : Nat}
    (hfuel : 4 * (tokensOfItems items).length + 1 ≤ fuel) (rest : List Token) :
    blockItems? fuel (unmarked handles (tokensOfItems items ++ .blockEnd :: rest)) =
      some (nodesOf items, unmarked handles rest) := by
  induction items generalizing fuel with
  | nil =>
    obtain ⟨n, rfl⟩ : ∃ n, fuel = n + 1 := ⟨fuel - 1, by omega⟩
    rfl
  | cons v r ih =>
    simp only [tokensOfItems, List.length_cons, List.length_append] at hfuel
    obtain ⟨n, rfl⟩ : ∃ n, fuel = n + 1 := ⟨fuel - 1, by omega⟩
    have hitem : nodeBefore? n true false [.entry, .blockEnd]
        (unmarked handles (tokensOf v ++ (tokensOfItems r ++ .blockEnd :: rest))) =
          some (nodeOf v, unmarked handles (tokensOfItems r ++ .blockEnd :: rest)) :=
      (hall v (by simp)).before (by omega) false _ rfl _
    have hrest : blockItems? n (unmarked handles (tokensOfItems r ++ .blockEnd :: rest)) =
        some (nodesOf r, unmarked handles rest) := ih (fun u hu => hall u (by simp [hu])) (by omega)
    rw [tokensOfItems, List.cons_append, List.append_assoc]
    change ((nodeBefore? n true false
      _ (unmarked handles (tokensOf v ++ (tokensOfItems r ++ .blockEnd :: rest)))).bind
      fun u => (blockItems? n u.2).bind fun w => some (u.1 :: w.1, w.2)) = _
    rw [hitem, Option.bind_some, hrest]
    rfl

theorem blockEntries?_tokensOf {members : List (Text × Json)} (hall : ∀ e ∈ members, Reads e.2)
    {fuel : Nat}
    (hfuel : 4 * (tokensOfMembers members).length + 1 ≤ fuel) (rest : List Token) :
    blockEntries? fuel (unmarked handles (tokensOfMembers members ++ .blockEnd :: rest)) =
      some (entriesOf members, unmarked handles rest) := by
  induction members generalizing fuel with
  | nil =>
    obtain ⟨n, rfl⟩ : ∃ n, fuel = n + 1 := ⟨fuel - 1, by omega⟩
    rfl
  | cons e r ih =>
    obtain ⟨k, v⟩ := e
    simp only [tokensOfMembers, List.length_cons, List.length_append] at hfuel
    obtain ⟨n, rfl⟩ : ∃ n, fuel = n + 5 := ⟨fuel - 5, by omega⟩
    have hvalue : nodeBefore? (n + 3) true true [.key, .value, .blockEnd]
        (unmarked handles (tokensOf v ++ (tokensOfMembers r ++ .blockEnd :: rest))) =
          some (nodeOf v, unmarked handles (tokensOfMembers r ++ .blockEnd :: rest)) :=
      (hall (k, v) (by simp)).before (by dsimp only; omega) true _ rfl _
    have hrest : blockEntries? (n + 4) (unmarked handles (tokensOfMembers r ++ .blockEnd :: rest)) =
        some (entriesOf r, unmarked handles rest) :=
          ih (fun u hu => hall u (by simp [hu])) (by omega)
    rw [tokensOfMembers, List.cons_append, List.cons_append, List.cons_append, List.append_assoc]
    change ((nodeBefore? (n + 3) true true _
      (unmarked handles (tokensOf v ++ (tokensOfMembers r ++ .blockEnd :: rest)))).bind fun u =>
        (blockEntries? (n + 4) u.2).bind fun w =>
        some ((.scalar none (keyStyle k) k, u.1) :: w.1, w.2)) = _
    rw [hvalue, Option.bind_some, hrest]
    rfl

theorem reads (v : Json) : Reads v := by
  induction v using Json.induct with
  | array items ih =>
    intro fuel indentless handles rest hfuel
    rw [length_tokensOf_array] at hfuel
    obtain ⟨n, rfl⟩ : ∃ n, fuel = n + 3 := ⟨fuel - 3, by omega⟩
    cases items with
    | nil => rfl
    | cons v r =>
      have hitems :
          blockItems? (n + 1) (unmarked handles (tokensOfItems (v :: r) ++ .blockEnd :: rest)) =
          some (nodesOf (v :: r), unmarked handles rest) := blockItems?_tokensOf ih (by omega) rest
      rw [tokensOf, if_neg (by simp), List.cons_append, List.append_assoc, node?_opening _ _ _ rfl]
      change (blockItems? (n + 1)
        (unmarked handles (tokensOfItems (v :: r) ++ .blockEnd :: rest))).map _ = _
      rw [hitems]
      rfl
  | object members ih =>
    intro fuel indentless handles rest hfuel
    rw [length_tokensOf_object] at hfuel
    obtain ⟨n, rfl⟩ : ∃ n, fuel = n + 3 := ⟨fuel - 3, by omega⟩
    cases members with
    | nil => rfl
    | cons e r =>
      have hmembers :
          blockEntries? (n + 1) (unmarked handles (tokensOfMembers (e :: r) ++ .blockEnd :: rest)) =
          some (entriesOf (e :: r), unmarked handles rest) := 
          blockEntries?_tokensOf ih (by omega) rest
      rw [tokensOf, if_neg (by simp), List.cons_append, List.append_assoc, node?_opening _ _ _ rfl]
      change (blockEntries? (n + 1)
        (unmarked handles (tokensOfMembers (e :: r) ++ .blockEnd :: rest))).map _ = _
      rw [hmembers]
      rfl
  | _ =>
    intro fuel indentless handles rest hfuel
    obtain ⟨n, rfl⟩ : ∃ n, fuel = n + 2 := ⟨fuel - 2, by simp [tokensOf] at hfuel; omega⟩
    rfl

end Reading

/-! ## Aliases -/

namespace Node

/-- The node of a value has no aliases, so only its depth counts. -/
def Resolves (v : Json) : Prop :=
  ∀ (nodes : List (Nat × Node)) (fuel jumps depth : Nat), 2 * (tokensOf v).length ≤ fuel →
    resolve? nodes fuel jumps depth (nodeOf v) =
      if nesting v ≤ depth then some (nodeOf v, jumps) else none

theorem resolveItems?_nodesOf {items : List Json} (hall : ∀ v ∈ items, Resolves v)
    (nodes : List (Nat × Node))
    (jumps depth : Nat) {fuel : Nat} (hfuel : 2 * (tokensOfItems items).length + 1 ≤ fuel) :
    resolveItems? nodes fuel jumps depth (nodesOf items) =
      if nestingItems items ≤ depth then some (nodesOf items, jumps) else none := by
  induction items generalizing fuel with
  | nil =>
    obtain ⟨n, rfl⟩ : ∃ n, fuel = n + 1 := ⟨fuel - 1, by omega⟩
    rw [nodesOf, resolveItems?, nestingItems, if_pos (Nat.zero_le depth)]
  | cons v r ih =>
    simp only [tokensOfItems, List.length_cons, List.length_append] at hfuel
    obtain ⟨n, rfl⟩ : ∃ n, fuel = n + 1 := ⟨fuel - 1, by omega⟩
    have hitem := hall v (by simp) nodes n jumps depth (by omega)
    have hrest : resolveItems? nodes n jumps depth (nodesOf r) = _ :=
      ih (fun u hu => hall u (by simp [hu])) (by omega)
    rw [nodesOf, resolveItems?, hitem, nestingItems]
    by_cases hv : nesting v ≤ depth
    · rw [if_pos hv, Option.bind_eq_bind, Option.bind_some]
      dsimp only
      rw [hrest]
      by_cases hr : nestingItems r ≤ depth
      · rw [if_pos hr, if_pos (by omega)]
        rfl
      · rw [if_neg hr, if_neg (by omega)]
        rfl
    · rw [if_neg hv, if_neg (by omega)]
      rfl

theorem resolveEntries?_entriesOf {members : List (Text × Json)}
    (hall : ∀ e ∈ members, Resolves e.2)
    (nodes : List (Nat × Node)) (jumps depth : Nat) {fuel : Nat}
    (hfuel : 2 * (tokensOfMembers members).length + 1 ≤ fuel) :
    resolveEntries? nodes fuel jumps depth (entriesOf members) =
      if nestingMembers members ≤ depth then some (entriesOf members, jumps) else none := by
  induction members generalizing fuel with
  | nil =>
    obtain ⟨n, rfl⟩ : ∃ n, fuel = n + 1 := ⟨fuel - 1, by omega⟩
    rw [entriesOf, resolveEntries?, nestingMembers, if_pos (Nat.zero_le depth)]
  | cons e r ih =>
    obtain ⟨k, v⟩ := e
    simp only [tokensOfMembers, List.length_cons, List.length_append] at hfuel
    obtain ⟨n, rfl⟩ : ∃ n, fuel = n + 2 := ⟨fuel - 2, by omega⟩
    have hvalue : resolve? nodes (n + 1) jumps depth (nodeOf v) = _ :=
      hall (k, v) (by simp) nodes (n + 1) jumps depth (by dsimp only; omega)
    have hkey : resolve? nodes (n + 1) jumps depth (.scalar none (keyStyle k) k) =
        some (.scalar none (keyStyle k) k, jumps) := by rw [resolve?]
    have hrest : resolveEntries? nodes (n + 1) jumps depth (entriesOf r) = _ :=
      ih (fun u hu => hall u (by simp [hu])) (by omega)
    rw [entriesOf, resolveEntries?, hkey, nestingMembers, Option.bind_eq_bind, Option.bind_some]
    dsimp only
    rw [hvalue]
    by_cases hv : nesting v ≤ depth
    · rw [if_pos hv, Option.bind_eq_bind, Option.bind_some]
      dsimp only
      rw [hrest]
      by_cases hr : nestingMembers r ≤ depth
      · rw [if_pos hr, if_pos (by omega)]
        rfl
      · rw [if_neg hr, if_neg (by omega)]
        rfl
    · rw [if_neg hv, if_neg (by omega)]
      rfl

theorem resolves (v : Json) : Resolves v := by
  induction v using Json.induct with
  | array items ih =>
    intro nodes fuel jumps depth hfuel
    rw [length_tokensOf_array] at hfuel
    obtain ⟨n, rfl⟩ : ∃ n, fuel = n + 1 := ⟨fuel - 1, by omega⟩
    have hitems : resolveItems? nodes n jumps (depth - 1) (nodesOf items) = _ :=
      resolveItems?_nodesOf ih nodes jumps (depth - 1) (by omega)
    rw [nodeOf, resolve?, hitems, nesting]
    by_cases hdepth : depth = 0
    · rw [if_pos hdepth, if_neg (by omega)]
    rw [if_neg hdepth]
    by_cases hv : nestingItems items ≤ depth - 1
    · rw [if_pos hv, if_pos (by omega)]
      rfl
    · rw [if_neg hv, if_neg (by omega)]
      rfl
  | object members ih =>
    intro nodes fuel jumps depth hfuel
    rw [length_tokensOf_object] at hfuel
    obtain ⟨n, rfl⟩ : ∃ n, fuel = n + 1 := ⟨fuel - 1, by omega⟩
    have hmembers : resolveEntries? nodes n jumps (depth - 1) (entriesOf members) = _ :=
      resolveEntries?_entriesOf ih nodes jumps (depth - 1) (by omega)
    rw [nodeOf, resolve?, hmembers, nesting]
    by_cases hdepth : depth = 0
    · rw [if_pos hdepth, if_neg (by omega)]
    rw [if_neg hdepth]
    by_cases hv : nestingMembers members ≤ depth - 1
    · rw [if_pos hv, if_pos (by omega)]
      rfl
    · rw [if_neg hv, if_neg (by omega)]
      rfl
  | _ =>
    intro nodes fuel jumps depth hfuel
    obtain ⟨n, rfl⟩ : ∃ n, fuel = n + 1 := ⟨fuel - 1, by simp [tokensOf] at hfuel; omega⟩
    rw [nodeOf, resolve?, nesting, if_pos (Nat.zero_le depth)]

end Node

/-! ## The document -/

theorem isEmpty_tokensOf (v : Json) : tokensOf v ≠ [] := by
  obtain ⟨t, r, h, -⟩ := tokensOf_cons v
  rw [h]
  simp

theorem begin?_tokensOf (v : Json) :
    Reading.begin? (tokensOf v) =
      some (false, Reading.unmarked [(['!'], ['!']), (['!', '!'], Node.coreTag [])]
        (tokensOf v)) := by
  obtain ⟨t, r, h, ht⟩ := tokensOf_cons v
  rw [h]
  cases t <;> first | rfl | exact absurd ht Bool.false_ne_true

/-- A document in block layout is read as the node of what is read of its value, unless it holds a
character that no document may hold or too many collections inside each other. -/
theorem Node.read?_block (v : Json) :
    Node.read? (block 0 (.ofJson v)) =
      if (block 0 (.ofJson v)).all isAllowed then
        (rereadValue? v).bind fun w => if nesting w ≤ depthLimit then some (nodeOf w) else none
      else none := by
  rw [Node.read?, tokens?_block v]
  split
  · cases rereadValue? v with
    | none => rfl
    | some w =>
      rw [Option.map_some, Option.bind_eq_bind, Option.bind_some, Option.bind_some,
        if_neg (isEmpty_tokensOf w), begin?_tokensOf]
      have hread :=
        Reading.reads w
          (6 * (tokensOf w).length + 6) false [(['!'], ['!']), (['!', '!'], Node.coreTag [])] []
        (by omega)
      rw [List.append_nil] at hread
      have hfuel : 2 * (tokensOf w).length ≤ (6 * (tokensOf w).length + 6) * (depthLimit + 1) :=
        Nat.le_trans (by omega) (Nat.le_mul_of_pos_right _ (Nat.succ_pos _))
      have hresolve := resolves w [] _ (100 * (nodeOf w).weight) depthLimit hfuel
      have hdone : (Reading.unmarked [(['!'], ['!']), (['!', '!'], Node.coreTag [])] []).isDone =
          true := rfl
      simp only [Option.bind_eq_bind, Option.bind_some, Bool.false_and, Bool.false_eq_true,
        if_false, hread, hdone, if_true]
      change (resolve? [] _ _ _ _).bind _ = _
      rw [hresolve]
      split <;> rfl
  · rfl

end Scenarist.Yaml

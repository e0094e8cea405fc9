import Scenarist.Json.Basic
import Scenarist.Proofs.Yaml.Key
import Scenarist.Yaml.Block

/-! # What is read of a value in block layout

Values written in block layout are JSON values. What is read of one has the same shape: its strings
are reread, and its keys are read as they are or not at all.
-/

namespace Scenarist.Yaml

open Layout

/-! ## Values -/

mutual

/-- What is read of a value that was written. -/
def rereadValue? : Json → Option Json
  | .string t => (reread? t).map .string
  | .array items => (rereadItems? items).map .array
  | .object members => (rereadMembers? members).map .object
  | .null => some .null
  | .bool b => some (.bool b)
  | .number n => some (.number n)

def rereadItems? : List Json → Option (List Json)
  | [] => some []
  | v :: r => (rereadValue? v).bind fun v => (rereadItems? r).map fun r => v :: r

def rereadMembers? : List (Text × Json) → Option (List (Text × Json))
  | [] => some []
  | (k, v) :: r =>
    if isKeyLegible k then
      (rereadValue? v).bind fun v => (rereadMembers? r).map fun r => (k, v) :: r
    else none

end

mutual

/-- The tokens of a value. -/
def tokensOf : Json → List Token
  | .string t => [.scalar .quoted t]
  | .array items =>
    if items.isEmpty then [.openSequence, .closeSequence]
    else .blockSequence :: (tokensOfItems items ++ [.blockEnd])
  | .object members =>
    if members.isEmpty then [.openMapping, .closeMapping]
    else .blockMapping :: (tokensOfMembers members ++ [.blockEnd])
  | .null => [.scalar .plain (scalar .null)]
  | .bool b => [.scalar .plain (scalar (.bool b))]
  | .number n => [.scalar .plain (scalar (.number n))]

def tokensOfItems : List Json → List Token
  | [] => []
  | v :: r => .entry :: (tokensOf v ++ tokensOfItems r)

def tokensOfMembers : List (Text × Json) → List Token
  | [] => []
  | (k, v) :: r => .key :: .scalar (keyStyle k) k :: .value :: (tokensOf v ++ tokensOfMembers r)

end

mutual

/-- The number of tokens that are written as characters. -/
def cost : Json → Nat
  | .array items => if items.isEmpty then 2 else costItems items
  | .object members => if members.isEmpty then 2 else costMembers members
  | .string _ => 1
  | .null => 1
  | .bool _ => 1
  | .number _ => 1

def costItems : List Json → Nat
  | [] => 0
  | v :: r => 1 + cost v + costItems r

def costMembers : List (Text × Json) → Nat
  | [] => 0
  | (_, v) :: r => 2 + cost v + costMembers r

end

/-! ## Pieces of the text -/

/-- The lines of a block at column `k` without the blanks before the first of them. -/
def linesAt (k : Nat) (v : Tree) : Text := (block k v).drop k

/-- A value behind a dash. -/
def itemText (k : Nat) (v : Tree) : Text :=
  '-' :: ' ' :: (if isBlock v then linesAt (k + 2) v else scalar v ++ ['\n'])

/-- A value behind the colon of its key. -/
def valueText (k : Nat) (v : Tree) : Text :=
  if isBlock v then '\n' :: block (k + 2) v else ' ' :: (scalar v ++ ['\n'])

def entryText (k : Nat) (key v : Tree) : Text := keyText key ++ ':' :: valueText k v

theorem blockItems_cons (k : Nat) (v : Tree) (r : List Tree) :
    blockItems k (v :: r) = pad k ++ (itemText k v ++ blockItems k r) := by
  rw [blockItems]
  simp [itemText, linesAt]

theorem blockEntries_cons (k : Nat) (key v : Tree) (r : List (Tree × Tree)) :
    blockEntries k ((key, v) :: r) = pad k ++ (entryText k key v ++ blockEntries k r) := by
  rw [blockEntries]
  cases h : isBlock v <;> simp [entryText, valueText, h]

theorem linesAt_pad (k : Nat) (t : Text) : (pad k ++ t).drop k = t :=
  List.drop_left' List.length_replicate

theorem linesAt_sequence (k : Nat) (v : Tree) (r : List Tree) :
    linesAt k (.sequence (v :: r)) = itemText k v ++ blockItems k r := by
  rw [linesAt, block, if_neg (by simp), blockItems_cons, linesAt_pad]

theorem linesAt_mapping (k : Nat) (key v : Tree) (r : List (Tree × Tree)) :
    linesAt k (.mapping ((key, v) :: r)) = entryText k key v ++ blockEntries k r := by
  rw [linesAt, block, if_neg (by simp), blockEntries_cons, linesAt_pad]

theorem isBlock_cases {j : Json} (h : isBlock (.ofJson j) = true) :
    (∃ v r, j = .array (v :: r)) ∨ ∃ key v r, j = .object ((key, v) :: r) := by
  match j with
  | .array (v :: r) => exact .inl ⟨v, r, rfl⟩
  | .object ((key, v) :: r) => exact .inr ⟨key, v, r, rfl⟩
  | .array [] => exact absurd h (by simp [Tree.ofJson, Tree.ofJsonItems, isBlock])
  | .object [] => exact absurd h (by simp [Tree.ofJson, Tree.ofJsonMembers, isBlock])
  | .null => exact absurd h (by simp [Tree.ofJson, isBlock])
  | .bool _ => exact absurd h (by simp [Tree.ofJson, isBlock])
  | .number _ => exact absurd h (by simp [Tree.ofJson, isBlock])
  | .string _ => exact absurd h (by simp [Tree.ofJson, isBlock])

theorem isBlock_induct {motive : Json → Prop}
    (array : ∀ v r, (∀ u ∈ v :: r, isBlock (.ofJson u) = true → motive u) →
      motive (.array (v :: r)))
    (object : ∀ e r, (∀ u ∈ e :: r, isBlock (.ofJson u.2) = true → motive u.2) →
      motive (.object (e :: r)))
    (v : Json) (h : isBlock (.ofJson v) = true) : motive v := by
  induction v using Json.induct with
  | array items ih =>
    rcases isBlock_cases h with ⟨v, r, ⟨⟩⟩ | ⟨key, v, r, ⟨⟩⟩
    exact array v r ih
  | object members ih =>
    rcases isBlock_cases h with ⟨v, r, ⟨⟩⟩ | ⟨key, v, r, ⟨⟩⟩
    exact object (key, v) r ih
  | _ => exact absurd h (by simp [Tree.ofJson, isBlock])

theorem block_eq (k : Nat) (j : Json) (h : isBlock (.ofJson j) = true) :
    block k (.ofJson j) = pad k ++ linesAt k (.ofJson j) := by
  rcases isBlock_cases h with ⟨v, r, rfl⟩ | ⟨key, v, r, rfl⟩
  · rw [Tree.ofJson, Tree.ofJsonItems, linesAt_sequence, block, if_neg (by simp), blockItems_cons]
  · rw [Tree.ofJson, Tree.ofJsonMembers, linesAt_mapping, block, if_neg (by simp),
      blockEntries_cons]

/-! ## The ends of pieces -/

/-- The text is at the end of a line. -/
def EndsInFeed (t : Text) : Prop := t.getLast? = some '\n'

theorem EndsInFeed.append {a b : Text} (hb : EndsInFeed b) : EndsInFeed (a ++ b) := by
  unfold EndsInFeed at *
  rw [List.getLast?_append, hb]
  rfl

theorem EndsInFeed.append_nil {a b : Text} (ha : EndsInFeed a) (hb : b = [] ∨ EndsInFeed b) :
    EndsInFeed (a ++ b) := by
  rcases hb with rfl | hb
  · rwa [List.append_nil]
  · exact hb.append

theorem EndsInFeed.after {t : Text} (h : EndsInFeed t) (p : Place) : (p.after t).column = 0 := by
  obtain ⟨u, rfl⟩ := List.getLast?_eq_some_iff.mp h
  exact p.after_feed u

theorem endsInFeed_item {k : Nat} {v : Tree}
    (h : isBlock v = true → ∀ k, EndsInFeed (linesAt k v)) :
    EndsInFeed (itemText k v) := by
  unfold itemText
  cases hblock : isBlock v with
  | true => exact (h hblock (k + 2)).append (a := ['-', ' '])
  | false => simp [EndsInFeed, List.getLast?_cons]

theorem endsInFeed_entry (k : Nat) (key : Tree) {v : Json}
    (h : isBlock (.ofJson v) = true → ∀ k, EndsInFeed (linesAt k (.ofJson v))) :
    EndsInFeed (entryText k key (.ofJson v)) := by
  unfold entryText valueText
  cases hblock : isBlock (.ofJson v) with
  | true =>
    rw [if_pos rfl, block_eq _ _ hblock]
    exact ((h hblock (k + 2)).append (a := ':' :: '\n' :: pad (k + 2))).append
  | false => simp [EndsInFeed, List.getLast?_cons, List.getLast?_append]

theorem endsInFeed_items {items : List Json}
    (h : ∀ v ∈ items, isBlock (.ofJson v) = true → ∀ k, EndsInFeed (linesAt k (.ofJson v)))
    (k : Nat) :
    blockItems k (Tree.ofJsonItems items) = [] ∨
      EndsInFeed (blockItems k (Tree.ofJsonItems items)) := by
  induction items with
  | nil => exact .inl rfl
  | cons v r ih =>
    rw [Tree.ofJsonItems, blockItems_cons]
    exact .inr ((endsInFeed_item (h v (by simp))).append_nil
      (ih fun u hu => h u (by simp [hu]))).append

theorem endsInFeed_members {members : List (Text × Json)}
    (h : ∀ e ∈ members, isBlock (.ofJson e.2) = true → ∀ k, EndsInFeed (linesAt k (.ofJson e.2)))
    (k : Nat) :
    blockEntries k (Tree.ofJsonMembers members) = [] ∨
      EndsInFeed (blockEntries k (Tree.ofJsonMembers members)) := by
  induction members with
  | nil => exact .inl rfl
  | cons e r ih =>
    rw [Tree.ofJsonMembers, blockEntries_cons]
    exact .inr ((endsInFeed_entry _ _ (h e (by simp))).append_nil
      (ih fun u hu => h u (by simp [hu]))).append

theorem endsInFeed_lines (v : Json) :
    isBlock (.ofJson v) = true → ∀ k, EndsInFeed (linesAt k (.ofJson v)) := by
  refine isBlock_induct (motive := fun v => ∀ k, EndsInFeed (linesAt k (.ofJson v)))
    (fun v r ih k => ?_)
    (fun e r ih k => ?_) v
  · rw [Tree.ofJson, Tree.ofJsonItems, linesAt_sequence]
    exact (endsInFeed_item (ih v (by simp))).append_nil
      (endsInFeed_items (fun u hu => ih u (by simp [hu])) k)
  · rw [Tree.ofJson, Tree.ofJsonMembers, linesAt_mapping]
    exact (endsInFeed_entry _ _ (ih e (by simp))).append_nil
      (endsInFeed_members (fun u hu => ih u (by simp [hu])) k)

/-! ## What stands behind a piece -/

theorem keyText_start (key : Text) :
    ∃ c r, keyText (.string key) = c :: r ∧ isTokenStart c = true := by
  cases hplain : isPlainKey key with
  | true =>
    obtain ⟨-, c, r, rfl, hc, -, -⟩ := plainKey_spec hplain
    exact ⟨c, r, keyText_plain hplain, isTokenStart_word hc⟩
  | false => exact ⟨'"', _, keyText_quoted hplain, rfl⟩

theorem follows_items {k : Nat} (items : List Tree) {more : Text} (h : Follows k more) :
    Follows (k + 1) (blockItems k items ++ more) := by
  cases items with
  | nil => exact h.mono (Nat.le_succ k)
  | cons v r =>
    rw [blockItems_cons, List.append_assoc]
    exact .line _ (Nat.lt_succ_self k) (c := '-') rfl

theorem follows_entries {k : Nat} (members : List (Text × Json)) {more : Text}
    (h : Follows k more) :
    Follows (k + 1) (blockEntries k (Tree.ofJsonMembers members) ++ more) := by
  match members with
  | [] => exact h.mono (Nat.le_succ k)
  | (key, v) :: r =>
    obtain ⟨c, t, hkey, hc⟩ := keyText_start key
    rw [Tree.ofJsonMembers, blockEntries_cons, List.append_assoc, entryText, hkey]
    exact .line _ (Nat.lt_succ_self k) hc

end Scenarist.Yaml

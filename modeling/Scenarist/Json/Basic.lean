import Scenarist.Decimal.Number

/-! # JSON values

Members of an object stand in a list. Objects that are read or built by `insert` keep their keys
in ascending order of code points, each key once.
-/

namespace Scenarist

inductive Json where
  | null
  | bool (value : Bool)
  | number (value : Number)
  | string (value : Text)
  | array (items : List Json)
  | object (members : List (Text × Json))

namespace Json

mutual

/-- Equality of values is decided part by part. -/
def decideEq : (a b : Json) → Decidable (a = b)
  | .null, .null => isTrue rfl
  | .bool a, .bool b => if h : a = b then isTrue (by rw [h]) else isFalse (by simp [h])
  | .number a, .number b => if h : a = b then isTrue (by rw [h]) else isFalse (by simp [h])
  | .string a, .string b => if h : a = b then isTrue (by rw [h]) else isFalse (by simp [h])
  | .array a, .array b =>
    match decideEqItems a b with
    | isTrue h => isTrue (by rw [h])
    | isFalse h => isFalse (by simp [h])
  | .object a, .object b =>
    match decideEqMembers a b with
    | isTrue h => isTrue (by rw [h])
    | isFalse h => isFalse (by simp [h])
  | .null, .bool _ | .null, .number _ | .null, .string _ | .null, .array _ | .null, .object _
  | .bool _, .null | .bool _, .number _ | .bool _, .string _ | .bool _, .array _
  | .bool _, .object _ | .number _, .null | .number _, .bool _ | .number _, .string _
  | .number _, .array _ | .number _, .object _ | .string _, .null | .string _, .bool _
  | .string _, .number _ | .string _, .array _ | .string _, .object _ | .array _, .null
  | .array _, .bool _ | .array _, .number _ | .array _, .string _ | .array _, .object _
  | .object _, .null | .object _, .bool _ | .object _, .number _ | .object _, .string _
  | .object _, .array _ => isFalse (by simp)

def decideEqItems : (a b : List Json) → Decidable (a = b)
  | [], [] => isTrue rfl
  | [], _ :: _ | _ :: _, [] => isFalse (by simp)
  | a :: as, b :: bs =>
    match decideEq a b, decideEqItems as bs with
    | isTrue h, isTrue h' => isTrue (by rw [h, h'])
    | isFalse h, _ => isFalse (by simp [h])
    | _, isFalse h => isFalse (by simp [h])

def decideEqMembers : (a b : List (Text × Json)) → Decidable (a = b)
  | [], [] => isTrue rfl
  | [], _ :: _ | _ :: _, [] => isFalse (by simp)
  | (k, a) :: as, (l, b) :: bs =>
    if hk : k = l then
      match decideEq a b, decideEqMembers as bs with
      | isTrue h, isTrue h' => isTrue (by rw [hk, h, h'])
      | isFalse h, _ => isFalse (by simp [h])
      | _, isFalse h => isFalse (by simp [h])
    else isFalse (by simp [hk])

end

instance : DecidableEq Json := decideEq

/-- The members with `key` set to `value`: in its place among ascending keys. -/
def insert (key : Text) (value : Json) : List (Text × Json) → List (Text × Json)
  | [] => [(key, value)]
  | (k, v) :: r =>
    if key = k then (key, value) :: r
    else if key < k then (key, value) :: (k, v) :: r
    else (k, v) :: insert key value r

/-- The object with these members; of two with one key the later one counts. -/
def ofMembers (members : List (Text × Json)) : Json :=
  .object (members.foldl (fun acc (k, v) => insert k v acc) [])

/-- The members of an object with `value` in place of every text under `key`. -/
def replaceText (key value : Text) : Json → Json
  | .object members =>
    .object (members.map fun (k, v) =>
      match v with
      | .string t => (k, .string (if k = key then value else t))
      | v => (k, v))
  | v => v

/-- The object with `f` of the value under `key` in place of that. -/
def modify (key : Text) (f : Json → Json) : Json → Json
  | .object members => .object (members.map fun (k, v) => (k, if k = key then f v else v))
  | v => v

mutual

/-- The value with the members of every object in ascending order of their keys. -/
def sorted : Json → Json
  | .array items => .array (sortedItems items)
  | .object members => ofMembers (sortedMembers members)
  | .null => .null
  | .bool b => .bool b
  | .number n => .number n
  | .string t => .string t

def sortedItems : List Json → List Json
  | [] => []
  | v :: r => sorted v :: sortedItems r

def sortedMembers : List (Text × Json) → List (Text × Json)
  | [] => []
  | (k, v) :: r => (k, sorted v) :: sortedMembers r

end

/-- The value that `f` gives, or null for nothing. -/
def orNull {α : Type} (f : α → Json) : Option α → Json
  | some a => f a
  | none => .null

/-- The value under a key of an object. -/
def get? (key : Text) : Json → Option Json
  | .object members => members.lookup key
  | _ => none

def text? : Json → Option Text
  | .string t => some t
  | _ => none

/-- What holds of a collection when it holds of all values in it holds of every value. -/
@[elab_as_elim]
theorem induct {motive : Json → Prop} (null : motive .null) (bool : ∀ b, motive (.bool b))
    (number : ∀ n, motive (.number n)) (string : ∀ t, motive (.string t))
    (array : ∀ items, (∀ v ∈ items, motive v) → motive (.array items))
    (object : ∀ members : List (Text × Json), (∀ e ∈ members, motive e.2) →
      motive (.object members))
    (j : Json) : motive j :=
  @Json.rec motive (fun items => ∀ v ∈ items, motive v) (fun members => ∀ e ∈ members, motive e.2)
    (fun e => motive e.2) null bool number string array object
    (fun _ h => absurd h List.not_mem_nil)
    (fun _ _ hv hr _ h => (List.mem_cons.mp h).elim (fun heq => heq ▸ hv) (hr _))
    (fun _ h => absurd h List.not_mem_nil)
    (fun _ _ he hr _ h => (List.mem_cons.mp h).elim (fun heq => heq ▸ he) (hr _))
    (fun _ _ h => h) j

end Json

end Scenarist

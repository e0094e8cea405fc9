import Scenarist.Proofs.Step.Recorded

/-! # Decoded entries

What is decoded of a document has finite numbers only, and the keys of its objects in order. So the
payload of an entry that could not be read has them so too.
-/

namespace Scenarist

open Json (IsCanonical isCanonical_ofMembers)

namespace Yaml.Node

theorem isCanonical_finiteNumber (n : Number) : IsCanonical (finiteNumber n) := by
  unfold finiteNumber
  split
  · split
    · rename_i hfinite
      exact .number _ hfinite
    · exact .null
  · rename_i hreal
    refine .number n ?_
    cases n with
    | integer k h => rfl
    | real x => exact absurd rfl (hreal x)

theorem isCanonical_jsonScalar? {t : Tree} {v : Json} (h : jsonScalar? t = some v) :
    IsCanonical v := by
  cases t with
  | null => obtain rfl := Option.some.inj h; exact .null
  | bool b => obtain rfl := Option.some.inj h; exact .bool b
  | number n => obtain rfl := Option.some.inj h; exact isCanonical_finiteNumber n
  | string u => obtain rfl := Option.some.inj h; exact .string u
  | _ => cases h

theorem forall_mem_of_bind_cons {α β : Type} {P : β → Prop} {f : α → β} {head : Option α}
    {tail : Option (List β)}
    {out : List β} (h : (head.bind fun v => tail.bind fun rest => some (f v :: rest)) = some out)
    (hhead : ∀ v, head = some v → P (f v)) (htail : ∀ rest, tail = some rest → ∀ b ∈ rest, P b) :
    ∀ b ∈ out, P b := by
  obtain ⟨v, hv, h⟩ := Option.bind_eq_some_iff.mp h
  obtain ⟨rest, hrest, h⟩ := Option.bind_eq_some_iff.mp h
  obtain rfl := Option.some.inj h
  exact List.forall_mem_cons.mpr ⟨hhead v hv, htail rest hrest⟩

mutual

theorem isCanonical_jsonOfTree? : ∀ t v, jsonOfTree? t = some v → IsCanonical v
  | .sequence items, _, h => by
    obtain ⟨vs, hvs, rfl⟩ := Option.map_eq_some_iff.mp h
    exact .array vs (isCanonical_jsonOfItems? items vs hvs)
  | .mapping entries, _, h => by
    obtain ⟨members, hmembers, rfl⟩ := Option.map_eq_some_iff.mp h
    exact isCanonical_ofMembers (isCanonical_jsonOfEntries? entries members hmembers)
  | .null, _, h => isCanonical_jsonScalar? (t := .null) h
  | .bool b, _, h => isCanonical_jsonScalar? (t := .bool b) h
  | .number n, _, h => isCanonical_jsonScalar? (t := .number n) h
  | .string u, _, h => isCanonical_jsonScalar? (t := .string u) h

theorem isCanonical_jsonOfItems? :
    ∀ items vs, jsonOfItems? items = some vs → ∀ v ∈ vs, IsCanonical v
  | [], _, h => by
    obtain rfl := Option.some.inj h
    simp
  | t :: r, _, h =>
      forall_mem_of_bind_cons (f := id) h (isCanonical_jsonOfTree? t) (isCanonical_jsonOfItems? r)

theorem isCanonical_jsonOfEntries? :
    ∀ entries members, jsonOfEntries? entries = some members → ∀ e ∈ members, IsCanonical e.2
  | [], _, h => by
    obtain rfl := Option.some.inj h
    simp
  | (k, t) :: r, _, h => by
    cases k with
    | string key =>
      exact forall_mem_of_bind_cons (P := fun e => IsCanonical e.2) (f := (key, ·)) h
        (isCanonical_jsonOfTree? t)
        (isCanonical_jsonOfEntries? r)
    | _ => cases h

end

mutual

theorem isCanonical_json? : ∀ n v, json? n = some v → IsCanonical v
  | .scalar tag style text, v, h => by
    rw [json?] at h
    split at h
    · cases h
    · obtain ⟨t, -, ht⟩ := Option.bind_eq_some_iff.mp h
      exact isCanonical_jsonScalar? ht
  | .sequence tag items, v, h => by
    rw [json?] at h
    split at h
    · cases h
    · obtain ⟨vs, hvs, rfl⟩ := Option.map_eq_some_iff.mp h
      exact .array vs (isCanonical_jsonItems? items vs hvs)
  | .mapping tag entries, v, h => by
    rw [json?] at h
    split at h
    · cases h
    · obtain ⟨members, hmembers, rfl⟩ := Option.map_eq_some_iff.mp h
      exact isCanonical_ofMembers (isCanonical_jsonMembers? entries members hmembers)
  | .value t, v, h => isCanonical_jsonOfTree? t v h

theorem isCanonical_jsonItems? : ∀ items vs, jsonItems? items = some vs → ∀ v ∈ vs, IsCanonical v
  | [], _, h => by
    obtain rfl := Option.some.inj h
    simp
  | n :: r, _, h =>
      forall_mem_of_bind_cons (f := id) h (isCanonical_json? n) (isCanonical_jsonItems? r)

theorem isCanonical_jsonMembers? :
    ∀ entries members, jsonMembers? entries = some members → ∀ e ∈ members, IsCanonical e.2
  | [], _, h => by
    obtain rfl := Option.some.inj h
    simp
  | (k, n) :: r, _, h => by
    obtain ⟨key, -, h⟩ := Option.bind_eq_some_iff.mp h
    exact forall_mem_of_bind_cons (P := fun e => IsCanonical e.2) (f := (key, ·)) h
      (isCanonical_json? n)
      (isCanonical_jsonMembers? r)

end

end Yaml.Node

theorem RecordedAction.payload_ofJson {payload payload' : Json} {name : Text}
    (h : ofJson payload = .unsupported name payload') : payload' = payload := by
  unfold ofJson at h
  split at h
  · cases h
  · cases h
    rfl

theorem Entry.action_ofNode? {n : Yaml.Node} {e : Entry} (h : Entry.ofNode? n = some e) :
    ∃ payload, IsCanonical payload ∧ e.action = .ofJson payload := by
  obtain ⟨r, -, h⟩ := Option.bind_eq_some_iff.mp h
  obtain ⟨frame, -, h⟩ := Option.bind_eq_some_iff.mp h
  obtain ⟨payload, hpayload, h⟩ := Option.bind_eq_some_iff.mp h
  obtain rfl := Option.some.inj h
  obtain ⟨action, -, hread⟩ := Option.bind_eq_some_iff.mp hpayload
  exact ⟨payload, Yaml.Node.isCanonical_json? action payload hread, rfl⟩

/-- An entry that is read from a document, or from a value, is decoded. -/
theorem Entry.isDecoded_ofNode? {n : Yaml.Node} {e : Entry} (h : Entry.ofNode? n = some e) :
    e.IsDecoded := by
  obtain ⟨payload, hcanonical, haction⟩ := action_ofNode? h
  intro name payload' hkept
  rw [RecordedAction.payload_ofJson (haction.symm.trans hkept)]
  exact hcanonical

end Scenarist

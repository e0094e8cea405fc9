import Scenarist.Proofs.Selector.Restored
import Scenarist.Proofs.Text.Pieces
import Scenarist.Step.Basic

/-! # Steps read back

A step is written without its defaults and read back as it was, unless its kind has a tag that names
none or it carries null.
-/

namespace Scenarist

open Yaml

variable {e : Json → Node}

/-! ## Kinds -/

namespace StepKind

theorem ofTag?_cases (t : Text) :
    (∃ k ∈ all, k.tag = t ∧ ofTag? t = some k) ∨
      (∀ k ∈ all, k.tag ≠ t) ∧
        ofTag? t = ((Text.dropEnd? unsupportedMark t).filter (· ≠ [])).map .unsupported := by
  unfold ofTag?
  cases hfind : all.find? fun k => k.tag == t with
  | some k =>
    exact .inl ⟨k, List.mem_of_find?_eq_some hfind, by simpa using List.find?_some hfind, rfl⟩
  | none =>
    refine .inr ⟨fun k hk heq => ?_, rfl⟩
    have := List.find?_eq_none.mp hfind k hk
    simp [heq] at this

theorem tag_of_ofTag? {t : Text} {k : StepKind} (h : ofTag? t = some k) : k.tag = t := by
  rcases ofTag?_cases t with ⟨k', -, htag, heq⟩ | ⟨-, heq⟩
  · rw [heq] at h
    obtain rfl := Option.some.inj h
    exact htag
  · rw [heq] at h
    obtain ⟨name, hname, rfl⟩ := Option.map_eq_some_iff.mp h
    obtain ⟨hdrop, -⟩ := Option.filter_eq_some_iff.mp hname
    exact (Text.eq_append_of_dropEnd? hdrop).symm

theorem ofTag?_tag (k : StepKind) :
    ofTag? k.tag = if k = .unsupported [] then none else some k := by
  have hknown : ∀ k ∈ all, ofTag? k.tag = some k := by decide
  have hother : ∀ k ∈ all, Text.dropEnd? unsupportedMark k.tag = none := by decide
  cases k with
  | unsupported name =>
    have hread : Text.dropEnd? unsupportedMark (tag (.unsupported name)) = some name :=
      Text.dropEnd?_append name _
    rcases ofTag?_cases (tag (.unsupported name)) with ⟨k, hk, htag, -⟩ | ⟨-, heq⟩
    · have hnone := hother k hk
      rw [htag, hread] at hnone
      exact absurd hnone (Option.some_ne_none name)
    · rw [heq, hread]
      cases name <;> simp
  | _ => exact hknown _ (by decide)

end StepKind

/-! ## Words -/

theorem MouseButton.restored (b : MouseButton) (he : Faithful e) : Restored e ofNode? toJson b := by
  refine ⟨by simp [toJson], .string _, ?_⟩
  rw [toJson, Json.strip, ofNode?, he.choice]
  cases b <;> rfl

theorem Modifier.restored (m : Modifier) (he : Faithful e) : Restored e ofNode? toJson m := by
  refine ⟨by simp [toJson], .string _, ?_⟩
  rw [toJson, Json.strip, ofNode?, he.choice]
  cases m <;> rfl

/-! ## Expectations -/

theorem Expectation.ofNode?_settled (x : Expectation) :
    ofNode? (.ofJson x.toJson.strip) = some x := by
  cases x with
  | navigation url part => cases url <;> cases part <;> rfl
  | popup page => cases page <;> rfl
  | download => rfl
  | dialog kind message accepted => cases kind <;> cases message <;> cases accepted <;> rfl

theorem Expectation.settles (x : Expectation) : Settles x.toJson := by
  have htext : ∀ o : Option Text, Settles (.orNull .string o) :=
    fun o => .orNull fun t _ => .string t
  cases x with
  | navigation url part =>
    refine .ofKeys ["type", "url", "urlContains"] (by decide) rfl ?_
    simp only [List.forall_mem_cons]
    exact ⟨.string _, htext url, htext part, by simp⟩
  | popup page =>
    refine .ofKeys ["type", "pageAlias"] (by decide) rfl ?_
    simp only [List.forall_mem_cons]
    exact ⟨.string _, htext page, by simp⟩
  | download =>
    refine .ofKeys ["type".toList] (by decide) rfl ?_
    simp only [List.forall_mem_cons]
    exact ⟨.string _, by simp⟩
  | dialog kind message accepted =>
    refine .ofKeys ["type", "kind", "message", "accepted"] (by decide) rfl ?_
    simp only [List.forall_mem_cons]
    exact ⟨.string _, htext kind, htext message, .orNull fun b _ => .bool b, by simp⟩

theorem Expectation.strip_eq (x : Expectation) :
    ∃ word rest, x.toJson.strip =
      .object (("type".toList, .string word) :: Json.stripMembers rest) ∧
      ∀ m ∈ rest, m.1 ≠ "type" := by
  cases x with
  | navigation url part =>
      exact ⟨_, [("url", .orNull .string url), ("urlContains", .orNull .string part)], rfl, by simp⟩
  | popup page => exact ⟨_, [("pageAlias", .orNull .string page)], rfl, by simp⟩
  | download => exact ⟨_, [], rfl, by simp⟩
  | dialog kind message accepted =>
    exact ⟨_, [("kind", .orNull .string kind), ("message", .orNull .string message),
      ("accepted", .orNull .bool accepted)], rfl, by simp⟩

theorem Expectation.restored (x : Expectation) (he : Faithful e) : Restored e ofNode? toJson x := by
  have hstrip := x.settles.strip
  refine ⟨by cases x <;> simp [toJson], hstrip.isFinite, ?_⟩
  obtain ⟨word, rest, heq, hother⟩ := x.strip_eq
  have hother' : ∀ m ∈ Json.stripMembers rest, m.1 ≠ "type" := fun m hm => by
    obtain ⟨v, hv, -⟩ := Json.mem_stripMembers hm
    exact hother (m.1, v) hv
  rw [← x.ofNode?_settled]
  rw [heq] at hstrip ⊢
  rw [ofNode?, ofNode?, he.tagged _ _ _ hstrip hother', faithful_ofJson.tagged _ _ _ hstrip hother']

/-! ## Steps -/

namespace Step

theorem restored_option (value : Text) (he : Faithful e) :
    Restored e optionOfNode? optionJson value := by
  have hkeys : ((optionJson value).membersOf.map Prod.fst).Nodup := List.nodup_singleton _
  obtain ⟨r, -, hrecord, h⟩ :=
    he.holds_strip ["value".toList] (by decide) (v := optionJson value) rfl hkeys
  have hsettles : Settles (optionJson value) :=
    .ofKeys ["value".toList] (by decide) rfl (by simpa using .string value)
  refine ⟨by simp [optionJson], hsettles.strip.isFinite, ?_⟩
  rw [optionOfNode?, hrecord]
  exact h.required (by decide) hkeys rfl (by decide) (he.textField value)

/-- Nothing in the step is lost when it is written without defaults, unless it carries null. -/
structure IsTidy (s : Step) : Prop where
  selector : ∀ t ∈ s.selector, t.isTidy = true
  modifiers : s.modifiers ≠ some []
  debug : ∀ v ∈ s.debug, Json.IsCanonical v

/-- The step as it is when it carries nothing in place of null. -/
def withoutNull (s : Step) : Step := { s with debug := s.debug.filter (· ≠ .null) }

/-- The step with another tag. -/
def jsonWith (tag : Text) (s : Step) : Json :=
  .object (("action".toList, .string tag) :: s.toJson.membersOf.tail)

theorem debugJson_eq (o : Option Json) :
    Json.orNull id o = Json.orNull id (o.filter (· ≠ .null)) := by
  cases o with
  | none => rfl
  | some v =>
    rw [Option.filter_some]
    by_cases hv : v = .null
    · rw [if_neg (by simp [hv]), hv]
      rfl
    · rw [if_pos (by simp [hv])]

theorem ofNode?_jsonWith (he : Faithful e) {s : Step} (h : s.IsTidy) (tag : Text) :
    ofNode? (e (s.jsonWith tag).strip) =
      (StepKind.ofTag? tag).map fun k => { s.withoutNull with action := k } := by
  have hkeys : ((s.jsonWith tag).membersOf.map Prod.fst).Nodup := (by decide : fieldNames.Nodup)
  obtain ⟨r, -, hrecord, hr⟩ :=
    he.holds_strip fieldNames (by decide) (v := s.jsonWith tag) rfl hkeys
  have hdebug : r.optional? "debug" true Node.json? = some s.withoutNull.debug := by
    have hlookup :
        (s.jsonWith tag).membersOf.lookup "debug".toList = some (Json.orNull id s.debug) := rfl
    rw [debugJson_eq] at hlookup
    have hcarried : ∀ v ∈ s.debug.filter (· ≠ .null), v ≠ .null ∧ Json.IsCanonical v := by
      intro v hv
      obtain ⟨hmem, hne⟩ := Option.filter_eq_some_iff.mp hv
      exact ⟨of_decide_eq_true hne, h.debug v hmem⟩
    refine hr.optional (g := id) (by decide) hkeys hlookup (w := id) (fun v hv => ?_) he
      (fun v hv => ?_) true
    · exact if_neg (hcarried v hv).1
    · obtain ⟨hne, hcanonical⟩ := hcarried v hv
      exact ⟨hne, hcanonical.isFinite, he.json hcanonical⟩
  have haction : r.required? "action" StepKind.ofNode? = StepKind.ofTag? tag := by
    have htext : r.required? "action" Node.text? = some tag :=
      hr.required (by decide) hkeys rfl (by decide) (he.textField tag)
    have hbind : r.required? "action" StepKind.ofNode? =
        (r.required? "action" Node.text?).bind StepKind.ofTag? :=
      (Option.bind_assoc _ _ _).symm
    rw [hbind, htext, Option.bind_some]
  rw [ofNode?, hrecord, Option.bind_eq_bind, Option.bind_some, haction]
  dsimp only
  rw [hr.restored he hkeys (fun t _ => he.textField t) (o := s.url)
    (by decide) rfl (by decide) true,
    hr.restored he hkeys (fun t ht => t.restored he (h.selector t ht)) (o := s.selector)
      (by decide) rfl (by decide) true,
    hr.restored he hkeys (fun t _ => he.textField t) (o := s.text) (by decide) rfl (by decide) true,
    hr.restored he hkeys (fun t _ => he.textField t) (o := s.key) (by decide) rfl (by decide) true,
    hr.restored he hkeys (fun t _ => he.textField t) (o := s.value)
      (by decide) rfl (by decide) true,
    hr.restored he hkeys (fun b _ => he.boolField b) (o := s.checked)
      (by decide) rfl (by decide) true,
    hr.restored he hkeys (fun b _ => he.boolField b) (o := s.visible)
      (by decide) rfl (by decide) true,
    hr.restored he hkeys (fun b _ => he.boolField b) (o := s.substring)
      (by decide) rfl (by decide) true,
    hr.restored he hkeys (fun l _ => he.list fun t _ => restored_option t he) (o := s.options)
      (by decide) rfl (by decide) true,
    hr.restored he hkeys (fun b _ => b.restored he) (o := s.button)
      (by decide) rfl (by decide) true,
    hr.list he hkeys (fun _ _ m _ => m.restored he) (by decide) rfl (by decide) h.modifiers true,
    hr.restored he hkeys (fun n _ => he.uint32Field n) (o := s.clickCount)
      (by decide) rfl (by decide) true,
    hr.restored he hkeys (fun l _ => he.list fun x _ => x.restored he) (o := s.expectations)
      (by decide) rfl (by decide) true, hdebug]
  cases StepKind.ofTag? tag <;> rfl

end Step

end Scenarist

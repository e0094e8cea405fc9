import Scenarist.Proofs.Scenario.Layout
import Scenarist.Proofs.Step.Texts
import Scenarist.Proofs.Yaml.Nodes
import Scenarist.Scenario.Document

/-! # Documents that are read back

A scenario that was recorded has a heading and steps, and is read back step by step. Its document is
read as this scenario exactly when every step has a kind with a name, no step carries null, and
nothing stands in the document that is not read back.
-/

namespace Scenarist

open Yaml

variable {e : Json → Node} {f : Text → Text}

/-! ## Texts -/

theorem keepsWords_rereadOrSame : KeepsWords Json.rereadOrSame where
  word t ht := by
    have hall : ∀ t ∈ fixedWords, Yaml.isLegible t = true := by decide
    exact Json.rereadOrSame_eq_self (hall t ht)
  empty t := by
    constructor
    · intro h
      rw [Json.rereadOrSame] at h
      cases hread : reread? t with
      | none =>
        rw [hread] at h
        exact h
      | some u =>
        rw [hread] at h
        obtain rfl : u = [] := h
        exact (eq_nil_of_rereadFrom hread (.inl rfl)).2
    · rintro rfl
      rfl

/-! ## Steps -/

namespace Step

theorem ofNode?_mapTexts (he : Faithful e) (hf : KeepsWords f) {s : Step} (h : s.IsTidy) :
    ofNode? (e (s.toJson.mapTexts f).strip) =
      (StepKind.ofTag? (f s.action.tag)).map fun k =>
        { (s.mapTexts f).withoutNull with action := k } := by
  have htag : s.toJson = s.jsonWith s.action.tag := rfl
  rw [htag, ← jsonWith_mapTexts hf, ofNode?_jsonWith he h.mapTexts]

theorem carried_eq {o : Option Json} (h : (o.map (Json.mapTexts f)).filter (· ≠ .null) = o) :
    o.map (Json.mapTexts f) = o ∧ o ≠ some .null := by
  cases o with
  | none => exact ⟨rfl, by simp⟩
  | some v =>
    obtain ⟨hmap, hne⟩ := Option.filter_eq_some_iff.mp h
    refine ⟨hmap, ?_⟩
    rintro ⟨⟩
    exact absurd rfl (of_decide_eq_true hne)

/-- A step is read as it was only if nothing of it was changed, and its kind has a name, and it does
not carry null. -/
theorem ofNode?_mapTexts_iff (he : Faithful e) (hf : KeepsWords f) {s : Step} (h : s.IsTidy) :
    ofNode? (e (s.toJson.mapTexts f).strip) = some s ↔
      s.toJson.mapTexts f = s.toJson ∧ s.action ≠ .unsupported [] ∧ s.debug ≠ some .null := by
  have htag : s.toJson = s.jsonWith s.action.tag := rfl
  constructor
  · intro hread
    rw [ofNode?_mapTexts he hf h] at hread
    obtain ⟨k, hk, heq⟩ := Option.map_eq_some_iff.mp hread
    obtain rfl : k = s.action := congrArg Step.action heq
    obtain ⟨hdebug, hcarried⟩ := carried_eq (congrArg Step.debug heq)
    have hsame : s.mapTexts f = s := calc
      s.mapTexts f = { ({ (s.mapTexts f).withoutNull with action := s.action } : Step) with
          debug := s.debug.map (Json.mapTexts f) } := rfl
      _ = s := by rw [heq, hdebug]
    have hkind := StepKind.tag_of_ofTag? hk
    refine ⟨?_, ?_, hcarried⟩
    · conv_lhs => rw [htag, ← jsonWith_mapTexts hf, hsame, ← hkind, ← htag]
    · intro hnameless
      rw [← hkind, StepKind.ofTag?_tag, if_pos hnameless] at hk
      exact absurd hk (by simp)
  · rintro ⟨hsame, hnamed, hcarried⟩
    have hfilter : s.withoutNull = s := by
      rw [withoutNull]
      have : s.debug.filter (· ≠ .null) = s.debug := by
        cases hdebug : s.debug with
        | none => rfl
        | some v =>
          rw [Option.filter_some, if_pos]
          rw [hdebug] at hcarried
          simpa using hcarried
      rw [this]
    rw [hsame, htag, ofNode?_jsonWith he h, StepKind.ofTag?_tag, if_neg hnamed, Option.map_some,
      hfilter]

end Step

/-! ## Scenarios -/

theorem mapM_eq_self_iff {α : Type} {g : α → Option α} {l : List α} :
    l.mapM g = some l ↔ ∀ a ∈ l, g a = some a := by
  induction l with
  | nil => simp
  | cons a l ih =>
    rw [List.mapM_cons, List.forall_mem_cons, ← ih]
    constructor
    · intro h
      obtain ⟨b, hb, hrest⟩ := Option.bind_eq_some_iff.mp h
      obtain ⟨r, hr, heq⟩ := Option.bind_eq_some_iff.mp hrest
      obtain ⟨rfl, rfl⟩ := List.cons.inj (Option.some.inj heq)
      exact ⟨hb, hr⟩
    · rintro ⟨ha, hl⟩
      rw [ha, hl]
      rfl

namespace Scenario

/-- What a scenario with a heading is written as, with these values for its steps. -/
def jsonWith (name : Text) (base : Option Text) (steps : List Json) : Json :=
  .object ((ofHeading name base).headerMembers ++ [("steps".toList, .array steps)])

theorem ofNode?_jsonWith (he : Faithful e) (name : Text) (base : Option Text) (steps : List Json) :
    ofNode? (e (jsonWith name base steps).strip) =
      (steps.mapM fun v => Step.ofNode? (e v.strip)).map fun l =>
        { ofHeading name base with steps := l } := by
  have hkeys : ((jsonWith name base steps).membersOf.map Prod.fst).Nodup :=
    (by decide : (["version", "name", "baseURL", "description", "hooks", "steps"].map
      String.toList).Nodup)
  obtain ⟨r, -, hrecord, h⟩ :=
    he.holds_strip fieldNames (by decide) (v := jsonWith name base steps) rfl hkeys
  have hsteps : r.defaulted? "steps" [] (Node.list? Step.ofNode?) = steps.mapM fun v =>
    Step.ofNode? (e v.strip) := by
    rw [h.defaulted (by decide) hkeys (v := .array steps) rfl (by decide) (by simp), Json.strip,
      Json.stripItems_eq, Node.list?, he.items, Option.bind_some, List.map_map, List.mapM_map]
    rfl
  rw [ofNode?, hrecord, Option.bind_eq_bind, Option.bind_some,
    h.required (by decide) hkeys rfl (by decide) (he.textField currentVersion),
    h.required (by decide) hkeys rfl (by decide) (he.textField name),
    h.restored he hkeys (fun t _ => he.textField t) (o := base) (by decide) rfl (by decide) true,
    h.restored he hkeys (fun t _ => he.textField t) (o := none) (by decide) rfl (by decide) true,
    h.missing (by decide) hkeys rfl, h.missing (by decide) hkeys rfl,
    h.restored he hkeys (g := Hooks.toJson) (o := none) (fun _ h => absurd h (by simp))
      (by decide) rfl (by decide) true, hsteps]
  cases steps.mapM fun v => Step.ofNode? (e v.strip) <;> rfl

/-- A scenario with a name, a base and steps. -/
def ofSteps (name : Text) (base : Option Text) (steps : List Step) : Scenario :=
  { ofHeading name base with steps }

theorem mapTexts_jsonWith (hversion : f currentVersion = currentVersion) (name : Text)
    (base : Option Text)
    (steps : List Json) :
    (jsonWith name base steps).mapTexts f =
      jsonWith (f name) (base.map f) (steps.map (Json.mapTexts f)) := by
  cases base <;>
    simp [jsonWith, headerMembers, ofHeading, listMember, Json.mapTexts, Json.mapTextsMembers,
      hversion, Json.mapTextsItems_eq, Json.orNull]

theorem jsonWith_inj {name name' : Text} {base base' : Option Text} {steps steps' : List Json}
    (h : jsonWith name base steps = jsonWith name' base' steps') :
    name = name' ∧ base = base' ∧ steps = steps' := by
  simp only [jsonWith, headerMembers, ofHeading, listMember, Json.object.injEq] at h
  obtain ⟨hheader, hsteps⟩ := List.append_inj' h rfl
  have hbase : Json.orNull .string base = Json.orNull .string base' := by
    injection hheader with _ h
    injection h with _ h
    injection h with h _
    exact (Prod.mk.inj h).2
  refine ⟨?_, ?_, ?_⟩
  · injection hheader with _ h
    injection h with h _
    exact Json.string.inj (Prod.mk.inj h).2
  · cases base <;> cases base' <;> first | rfl | simp_all [Json.orNull]
  · injection hsteps with h _
    exact Json.array.inj (Prod.mk.inj h).2

theorem ofNode?_mapTexts_iff (he : Faithful e) (hf : KeepsWords f)
    (hversion : f currentVersion = currentVersion)
    (name : Text) (base : Option Text) {steps : List Step} (h : ∀ t ∈ steps, t.IsTidy) :
    ofNode? (e ((ofSteps name base steps).toJson.mapTexts f).strip) =
      some (ofSteps name base steps) ↔
      (ofSteps name base steps).toJson.mapTexts f = (ofSteps name base steps).toJson ∧
        ∀ t ∈ steps, t.action ≠ .unsupported [] ∧ t.debug ≠ some .null := by
  have hjson : (ofSteps name base steps).toJson = jsonWith name base (steps.map Step.toJson) := rfl
  have hread : ((steps.map Step.toJson).map (Json.mapTexts f)).mapM
      (fun v => Step.ofNode? (e v.strip)) = some steps ↔
      (steps.map Step.toJson).map (Json.mapTexts f) = steps.map Step.toJson ∧
        ∀ t ∈ steps, t.action ≠ .unsupported [] ∧ t.debug ≠ some .null := by
    have hsteps : ∀ t ∈ steps, Step.ofNode? (e (t.toJson.mapTexts f).strip) = some t ↔ _ :=
      fun t ht => Step.ofNode?_mapTexts_iff he hf (h t ht)
    rw [List.map_map, List.mapM_map, mapM_eq_self_iff, List.map_inj_left, ← forall₂_and]
    exact forall₂_congr hsteps
  rw [hjson, mapTexts_jsonWith hversion, ofNode?_jsonWith he, Option.map_eq_some_iff]
  constructor
  · rintro ⟨l, hl, heq⟩
    obtain rfl : l = steps := congrArg Scenario.steps heq
    have hname : f name = name := congrArg Scenario.name heq
    have hbase : base.map f = base := congrArg Scenario.baseUrl heq
    obtain ⟨hsame, hall⟩ := hread.mp hl
    rw [hname, hbase, hsame]
    exact ⟨rfl, hall⟩
  · rintro ⟨hsame, hall⟩
    obtain ⟨hname, hbase, hitems⟩ := jsonWith_inj hsame
    refine ⟨steps, hread.mpr ⟨hitems, hall⟩, ?_⟩
    rw [hname, hbase]
    rfl

/-! ## Documents -/

/-- The document of the scenario is read back: each step has a kind with a name and carries no null,
each character may stand in a document, each text and each key is read as it was written, and not
too many collections are inside each other. -/
structure IsReadable (s : Scenario) : Prop where
  named : ∀ t ∈ s.steps, t.action ≠ .unsupported []
  carried : ∀ t ∈ s.steps, t.debug ≠ some .null
  allowed : s.toYaml.all isAllowed = true
  legible : s.toJson.strip.IsLegible
  shallow : nesting s.toJson.strip ≤ Node.depthLimit

theorem ofNode?_read_iff (name : Text) (base : Option Text) {steps : List Step}
    (h : ∀ t ∈ steps, t.IsTidy) :
    (Node.read? (ofSteps name base steps).toYaml).bind ofNode? = some (ofSteps name base steps) ↔
      (ofSteps name base steps).IsReadable := by
  have hversion : Json.rereadOrSame currentVersion = currentVersion :=
    Json.rereadOrSame_eq_self (by decide)
  have hdecode := ofNode?_mapTexts_iff faithful_nodeOf keepsWords_rereadOrSame hversion name base h
  constructor
  · intro hread
    obtain ⟨n, hn, hscenario⟩ := Option.bind_eq_some_iff.mp hread
    rw [toYaml_eq_block, Node.read?_block] at hn
    split at hn
    · rename_i hallowed
      obtain ⟨w, hw, hshallow⟩ := Option.bind_eq_some_iff.mp hn
      obtain rfl := Json.rereadValue?_eq hw
      split at hshallow
      · rename_i hnesting
        obtain rfl := Option.some.inj hshallow
        rw [← Json.strip_mapTexts] at hscenario hw hnesting
        obtain ⟨hsame, hall⟩ := hdecode.mp hscenario
        rw [hsame] at hw hnesting
        refine ⟨fun t ht => (hall t ht).1, fun t ht => (hall t ht).2, ?_,
          Json.rereadValue?_eq_self.mp hw, hnesting⟩
        rw [toYaml_eq_block]
        exact hallowed
      · exact absurd hshallow (by simp)
    · exact absurd hn (by simp)
  · rintro ⟨hnamed, hcarried, hallowed, hlegible, hshallow⟩
    have hw := Json.rereadValue?_eq_self.mpr hlegible
    have hsame := (ofSteps name base steps).toJson.mapTexts_id
    have hkept :=
      ofNode?_mapTexts_iff (f := id) faithful_nodeOf
        ⟨fun t _ => rfl, fun t => Iff.rfl⟩ rfl name base h
    rw [hsame] at hkept
    rw [toYaml_eq_block] at hallowed ⊢
    rw [Node.read?_block, if_pos hallowed, hw, Option.bind_some, if_pos hshallow, Option.bind_some]
    exact hkept.mpr ⟨rfl, fun t ht => ⟨hnamed t ht, hcarried t ht⟩⟩

end Scenario

end Scenarist

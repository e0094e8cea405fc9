import Scenarist.Proofs.Chain.Faithful
import Scenarist.Proofs.Selector.Filters

/-! # Selectors of quoted chains

The chain that a part quotes becomes a selector without being written and read again. It is the
selector of the chain's text if the chain is faithful.
-/

namespace Scenarist

namespace Selector

open Chain

/-- The text of a quoted chain is read as the same chain just if the chain is faithful, and then
what the part sets is the selector of this text. -/
theorem inner_eq_reread {raw : Text} {c d : Chain} {p : Part} (hread : Chain.read raw = .ok c)
    (hp : c.HasPart p)
    (hd : p.inner? = some d) :
    (Chain.read d.toText = .ok d ↔ d.IsFaithful) ∧
      (d.IsFaithful → innerSelector p = ofRecorded? d.toText ∧
        (p.engine = "has" →
          ∀ w, (narrow w p (innerSelector p)).value.filters.has = (ofRecorded? d.toText).value) ∧
        (p.engine = "has-not" → ∀ w,
          (narrow w p (innerSelector p)).value.filters.hasNot = (ofRecorded? d.toText).value)) := by
  obtain ⟨u, hu⟩ := hp.inner_read hread hd
  refine ⟨read_toText_eq_iff hu, fun hfaithful => ?_⟩
  have hreread := (read_toText_eq_iff hu).mpr hfaithful
  have hsame : innerSelector p = ofRecorded? d.toText := by
    unfold ofRecorded?
    rw [hreread]
    cases p with
    | plain name source => cases hd
    | nested name source inner distance =>
      obtain rfl := Option.some.inj hd
      rfl
  refine ⟨hsame, fun hengine w => ?_, fun hengine w => ?_⟩
  · rw [narrow_kind .has hengine, hsame]
    rfl
  · rw [narrow_kind .hasNot hengine, hsame]
    rfl

/-- A list item with a list in which nothing is sold out. -/
theorem inner_eq_reread_sold_out :
    let raw : Text :=
  "li >> internal:has=\"ul >> internal:has-not=\\\"text='sold out' >> nth=0\\\"\""
    let d : Chain := ⟨[.plain "text" "'sold out'", .plain "nth" "0"], none⟩
    let q : Part := .nested "internal:has-not" "\"text='sold out' >> nth=0\"" d none
    let e : Chain := ⟨[.plain "css" "ul", q], none⟩
    let c : Chain :=
      ⟨[.plain "css" "li",
      .nested "internal:has" "\"ul >> internal:has-not=\\\"text='sold out' >> nth=0\\\"\"" e none],
      none⟩
    Chain.read raw = .ok c ∧ c.HasPart q ∧ d.IsFaithful ∧
      innerSelector q = ofRecorded? "text='sold out' >> nth=0" := by
  intro raw d q e c
  have hread : Chain.read raw = .ok c := by rfl
  have hpart : c.HasPart q :=
    .quoted (List.mem_cons_of_mem _ List.mem_cons_self)
    rfl (.here (List.mem_cons_of_mem _ List.mem_cons_self))
  have hfaithful : d.IsFaithful := by
    constructor
    · rintro p ⟨n, hp, -⟩ hname
      have hmem := List.mem_of_getElem? hp
      simp only [d, List.mem_cons, List.not_mem_nil, or_false] at hmem
      rcases hmem with rfl | rfl
      · exact absurd hname (by decide)
      · exact absurd hname (by decide)
    · intro n p hp _ hname
      cases n with
      | zero =>
        obtain rfl := Option.some.inj hp
        exact ⟨by rfl, fun _ => rfl⟩
      | succ n =>
        have hmem := List.mem_of_getElem? (l := [Part.plain "nth" "0"]) hp
        obtain rfl := List.mem_singleton.mp hmem
        exact absurd hname (by decide)
  exact ⟨hread, hpart, hfaithful, ((inner_eq_reread hread hpart rfl).2 hfaithful).1⟩

/-- Of a query that looks like a path the text says a path. -/
theorem query_reread_as_path :
    let raw : Text := "li >> internal:has=\"css=//div\""
    let d : Chain := ⟨[.plain "css" "//div"], none⟩
    let p : Part := .nested "internal:has" "\"css=//div\"" d none
    Chain.read raw = .ok ⟨[.plain "css" "li", p], none⟩ ∧ d.toText = "//div" ∧
      (narrow .none p (innerSelector p)).value.filters.has = some (ofElement (.css "//div")) ∧
      (ofRecorded? d.toText).value = some (ofElement (.xpath "//div")) ∧
      (innerSelector p).value ≠ (ofRecorded? d.toText).value := by
  intro raw d p
  have hdirect : (innerSelector p).value = some (ofElement (.css "//div")) := by decide +kernel
  have hreread : (ofRecorded? d.toText).value = some (ofElement (.xpath "//div")) := by
    decide +kernel
  refine ⟨by rfl, by rfl, hdirect, hreread, ?_⟩
  rw [hdirect, hreread]
  simp [ofElement]

end Selector

end Scenarist

import Scenarist.Proofs.Chain.Appended
import Scenarist.Proofs.Chain.Regular
import Scenarist.Proofs.Selector.Filters

/-! # The part that names the element

The captured part names the element, or else the last one that does more than narrow. Parts behind
it that only narrow leave it where it is, so filters behind a text do not change which element is
meant.
-/

namespace Scenarist

/-- The part narrows what another part names, or says nothing about the element. -/
def Part.Narrows (p : Part) : Prop :=
  p.engine ∈ Chain.filterEngines ∨ p.engine ∈ Chain.ignoredEngines

namespace Chain

/-! ## The last part that does more -/

theorem canBeBase_iff {p : Part} : canBeBase p = true ↔ ¬p.Narrows := by
  have hmem (texts : List Text) : p.engine.isOneOf texts = true ↔ p.engine ∈ texts := by
    simp [Text.isOneOf]
  rw [canBeBase, Part.Narrows, ← hmem, ← hmem]
  simp

theorem narrows_iff {p : Part} : p.Narrows ↔ canBeBase p = false := by
  rw [Bool.eq_false_iff, ne_eq, canBeBase_iff, not_not]

theorem lastBase?_eq_none_iff {ps : List Part} : lastBase? ps = none ↔ ∀ p ∈ ps, p.Narrows := by
  induction ps with
  | nil => simp [lastBase?]
  | cons p ps ih =>
    rw [lastBase?, List.forall_mem_cons, ← ih]
    cases lastBase? ps with
    | some n => simp
    | none => simp [canBeBase_iff]

theorem lastBase?_eq_some_iff {ps : List Part} {i : Nat} :
    lastBase? ps = some i ↔
      ∃ p, ps[i]? = some p ∧ ¬p.Narrows ∧ ∀ q ∈ ps.drop (i + 1), q.Narrows := by
  induction ps generalizing i with
  | nil => simp [lastBase?]
  | cons p ps ih =>
    rw [lastBase?, List.drop_succ_cons]
    -- The first part is the base only where no part behind it can be.
    cases i with
    | zero =>
      rw [List.drop_zero, ← lastBase?_eq_none_iff]
      cases lastBase? ps with
      | some n => simp
      | none => simp [canBeBase_iff]
    | succ i =>
      rw [List.getElem?_cons_succ, ← ih]
      cases lastBase? ps with
      | some n => simp
      | none => simp [canBeBase_iff]

theorem lastBase?_append {ps qs : List Part} (h : ∀ q ∈ qs, q.Narrows) :
    lastBase? (ps ++ qs) = lastBase? ps := by
  induction ps with
  | nil => exact lastBase?_eq_none_iff.mpr h
  | cons p ps ih => rw [List.cons_append, lastBase?, lastBase?, ih]

/-! ## The base of a chain -/

theorem base?_of_capture {c : Chain} (hc : c.IsRegular) {n : Nat} (h : n ∈ c.capture) :
    c.base? = some n := by
  rw [base?, h, Option.filter_some, decide_eq_true (hc.capture n h)]
  rfl

theorem base?_of_free {c : Chain} (h : c.capture = none) : c.base? = lastBase? c.parts := by
  rw [base?, h]
  rfl

theorem base?_narrowed {c : Chain} (hc : c.IsRegular) {qs : List Part} (h : ∀ q ∈ qs, q.Narrows) :
    base? ⟨c.parts ++ qs, c.capture⟩ = c.base? := by
  cases hcapture : c.capture with
  | none => rw [base?_of_free rfl, base?_of_free hcapture, lastBase?_append h]
  | some n =>
    -- What is captured is a part of the chain, so it is one of the longer chain too.
    have hn := hc.capture n hcapture
    have hlonger : n < (c.parts ++ qs).length := by rw [List.length_append]; omega
    rw [base?_of_capture hc hcapture, base?, Option.filter_some, decide_eq_true hlonger]
    rfl

/-! ## A text behind another -/

/-- Behind a text that leaves no quotation open, the parts of one that captures nothing are read
behind its own. -/
theorem read_narrowed {a b : Text} {c d : Chain} (ha : Chain.read a = .ok c)
    (hb : Chain.read b = .ok d)
    (hclosed : (finish .start [] a).quote = none) (hfree : d.capture = none) :
    Chain.read (a ++ (" >> ".toList ++ b)) = .ok ⟨c.parts ++ d.parts, c.capture⟩ := by
  have hsplit := split_appended (split_of_read ha) (split_of_read hb) hclosed
  rw [if_neg (by simp [outline, hfree])] at hsplit
  have hparts : (c.outline.join d.outline).parts.mapM (fun p => part Chain.read p.1 p.2) =
      .ok (c.parts ++ d.parts) := by
    rw [Split.join, List.mapM_append, mapM_part_of_read ha, mapM_part_of_read hb]
    rfl
  rw [read_eq, hsplit, ok_bind, hparts, ok_bind]
  simp [Split.join, outline, hfree]

end Chain

namespace Selector

open Chain

theorem element_of_read {raw : Text} {c : Chain} {base : Nat} {part : Part} {target : Element}
    (hread : Chain.read raw = .ok c) (hbase : c.base? = some base)
    (hpart : c.parts[base]? = some part)
    (htarget : (Chain.element part).value = some target) :
    ∃ m, (ofRecorded? raw).value = some m ∧ m.element = some target := by
  refine ⟨(c.toSelector raw).value, by rw [ofRecorded?, hread]; rfl, ?_⟩
  rw [toSelector_eq raw hbase hpart htarget]
  rfl

theorem baseOf?_of_read {raw : Text} {c : Chain} (hread : Chain.read raw = .ok c) :
    baseOf? (some raw) = c.base? := by
  rw [baseOf?, Option.bind_some, hread]
  rfl

/-- What is captured names the element, or else the last part that does more than narrow. Whatever
narrowing text stands behind one whose element can be expressed, the base and the element stay the
same. -/
theorem base_stable {raw : Text} {c : Chain} (hread : Chain.read raw = .ok c) :
    (∀ n ∈ c.capture, c.base? = some n) ∧
    (c.capture = none →
      (∀ i, c.base? = some i ↔
        ∃ p, c.parts[i]? = some p ∧ ¬p.Narrows ∧ ∀ q ∈ c.parts.drop (i + 1), q.Narrows) ∧
      (c.base? = none ↔ ∀ p ∈ c.parts, p.Narrows)) ∧
    ∀ base part target, c.base? = some base → c.parts[base]? = some part →
      (Chain.element part).value = some target →
      (finish .start [] raw).quote = none →
      ∀ filters d, Chain.read filters = .ok d → d.capture = none → (∀ p ∈ d.parts, p.Narrows) →
        let longer := raw ++ (" >> ".toList ++ filters)
        (baseOf? (some raw) = some base ∧ baseOf? (some longer) = some base) ∧
        ∃ m m', (ofRecorded? raw).value = some m ∧ (ofRecorded? longer).value = some m' ∧
          m.element = some target ∧ m'.element = some target := by
  have hregular := isRegular_of_read hread
  refine ⟨fun n hn => base?_of_capture hregular hn, fun hfree => ?_, ?_⟩
  · rw [base?_of_free hfree]
    exact ⟨fun i => lastBase?_eq_some_iff, lastBase?_eq_none_iff⟩
  · intro base part target hbase hpart htarget hclosed filters d hfilters hfree hnarrows longer
    have hlonger : Chain.read longer = .ok ⟨c.parts ++ d.parts, c.capture⟩ :=
      read_narrowed hread hfilters hclosed hfree
    have hsame : Chain.base? ⟨c.parts ++ d.parts, c.capture⟩ = some base :=
      (base?_narrowed hregular hnarrows).trans hbase
    have hthere : (c.parts ++ d.parts)[base]? = some part :=
      (List.getElem?_append_left (List.getElem?_eq_some_iff.mp hpart).1).trans hpart
    obtain ⟨m, hm, helement⟩ := element_of_read hread hbase hpart htarget
    obtain ⟨m', hm', helement'⟩ := element_of_read hlonger hsame hthere htarget
    exact ⟨⟨(baseOf?_of_read hread).trans hbase, (baseOf?_of_read hlonger).trans hsame⟩, m, m', hm,
      hm', helement, helement'⟩

/-- The first of several list items, then narrowed by a text and described with a quotation that is
left open. -/
theorem base_stable_list_item :
    let raw : Text := "ul >> css=li[title=\"Ada >> Grace\"] >> nth=0"
    let filters : Text := "internal:has-text=\"Ada >> Grace\" >> internal:describe='Ada"
    let longer : Text := raw ++ (" >> ".toList ++ filters)
    let c : Chain :=
      ⟨[.plain "css" "ul", .plain "css" "li[title=\"Ada >> Grace\"]", .plain "nth" "0"], none⟩
    let d : Chain :=
      ⟨[.plain "internal:has-text" "\"Ada >> Grace\"", .plain "internal:describe" "'Ada"], none⟩
    Chain.read raw = .ok c ∧ Chain.read filters = .ok d ∧ (finish .start [] raw).quote = none ∧
      (∀ p ∈ d.parts, p.Narrows) ∧ (c.base? = some 1 ∧ ∀ q ∈ c.parts.drop 2, q.Narrows) ∧
      baseOf? (some longer) = some 1 ∧
      ∃ m, (ofRecorded? longer).value = some m ∧
        m.element = some (.css "li[title=\"Ada >> Grace\"]") := by
  intro raw filters longer c d
  have hread : Chain.read raw = .ok c := by rfl
  have hfilters : Chain.read filters = .ok d := by rfl
  have hclosed : (finish .start [] raw).quote = none := rfl
  have hnarrows : ∀ p ∈ d.parts, p.Narrows := by
    intro p hp
    rcases List.mem_pair.mp hp with rfl | rfl
    · exact .inl (by decide)
    · exact .inr (by decide)
  obtain ⟨-, hlast, hstable⟩ := base_stable hread
  have hbase : c.base? = some 1 := rfl
  obtain ⟨p, -, -, hbehind⟩ := ((hlast rfl).1 1).mp hbase
  obtain ⟨⟨-, hsame⟩, -, m, -, hm, -, helement⟩ :=
    hstable 1 _ _ hbase rfl rfl hclosed filters d hfilters rfl hnarrows
  exact ⟨hread, hfilters, hclosed, hnarrows, ⟨hbase, hbehind⟩, hsame, m, hm, helement⟩

end Selector

end Scenarist

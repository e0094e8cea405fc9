import Mathlib.Data.List.DropRight
import Scenarist.Proofs.Chain.Faithful
import Scenarist.Proofs.Json.Literal
import Scenarist.Selector.Recorded

/-! # What holds of every chain that was read

A chain that was read has parts, one of which may be captured. The parts have proper names and
trimmed bodies, and those that quote a chain begin with the string that writes it. The same holds of
the chains that are quoted, at any depth.
-/

namespace Scenarist

/-! ## The string at the head of a list -/

namespace Json

/-- A text begins with a literal of this string. -/
def BeginsWith (t s : Text) : Prop :=
  ∃ literal rest : Text, t = literal ++ rest ∧ readString? literal = some s

theorem exists_skipSpace (t : Text) : ∃ a, t = a ++ skipSpace t ∧ ∀ c ∈ a, isSpace c = true :=
  ⟨t.takeWhile isSpace, List.takeWhile_append_dropWhile.symm, fun _ => List.mem_takeWhile_imp⟩

theorem beginsWith_of_readList {body s : Text} {vs : List Json}
    (h : readList ('[' :: body ++ [']']) = .ok (.string s :: vs)) :
    BeginsWith body s := by
  rw [readList, whole, List.cons_append, skipSpace_cons _ rfl] at h
  obtain ⟨⟨v, rest⟩, hitems, h⟩ := bind_eq_ok_iff.mp h
  obtain ⟨_, -, h⟩ := bind_eq_ok_iff.mp h
  cases h
  replace hitems :
    items (value (depthLimit - 1)) ((body ++ [']']).length + 1) true (body ++ [']']) = _ := hitems
  rw [List.length_append, List.length_singleton, items] at hitems
  split at hitems
  · cases hitems
  · cases hitems
  rename_i c r _ hr
  obtain ⟨start, hstart, hitems⟩ := bind_eq_ok_iff.mp hitems
  obtain ⟨⟨v, after⟩, hv, hitems⟩ := bind_eq_ok_iff.mp hitems
  obtain ⟨⟨vs', rest'⟩, hafter, hitems⟩ := bind_eq_ok_iff.mp hitems
  cases hitems
  obtain rfl : c :: r = start := by simpa [items.nextItem] using hstart
  obtain ⟨u, hu, hbody⟩ := value_string hv
  obtain ⟨string, rfl, hwrites⟩ := stringBody_eq_ok_iff.mp hbody
  -- the list goes on behind the literal, so its bracket stands there
  have hopen : after ≠ [] := by
    rintro rfl
    rw [items] at hafter
    cases hafter
  obtain ⟨behind, last, rfl⟩ := (List.eq_nil_or_concat after).resolve_left hopen
  obtain ⟨blanks, hblanks, hspace⟩ := exists_skipSpace (body ++ [']'])
  have hstop : skipSpace (c :: r) = c :: r := hr ▸ List.dropWhile_idempotent _ _
  rw [hstop] at hu
  rw [hr, hu] at hblanks
  have hbody : body ++ [']'] = (blanks ++ '"' :: (string ++ ['"']) ++ behind) ++ [last] := by
    simpa using hblanks
  obtain ⟨rfl, -⟩ := List.append_inj' hbody rfl
  refine ⟨blanks ++ '"' :: (string ++ ['"']), behind, rfl, ?_⟩
  have hstring : readString? ('"' :: (string ++ ['"'])) = some s :=
    readString?_eq_some_iff.mpr ⟨string, [], rfl, hwrites, List.forall_mem_nil _⟩
  rw [← hstring, readString?, readString?, skipSpace, List.dropWhile_append_of_pos hspace]
  rfl

end Json

/-! ## Regular chains -/

namespace Chain

/-- The characters of engines' names. -/
def isEngineSign (c : Char) : Bool := c.isAlphanum || c ∈ ['_', '-', '+', ':', '*']

end Chain

open Chain in
/-- What holds of a part that was read. -/
structure Part.IsRegular (captured : Bool) (p : Part) : Prop where
  trimmed : Text.trim p.source = p.source
  signs : ∀ c ∈ p.name, isEngineSign c = true
  named : captured = false → p.name ≠ [] ∧ p.name.head? ≠ some '*'
  nested : p.inner?.isSome = true ↔ p.name ∈ nestedEngines
  text : p.name ∉ nestedEngines → p.text? = some p.source
  quoted : ∀ d, p.inner? = some d → ∃ u, Json.BeginsWith p.source u ∧ Chain.read u = .ok d

namespace Chain

structure IsRegular (c : Chain) : Prop where
  parts : c.parts ≠ []
  capture : ∀ n ∈ c.capture, n < c.parts.length
  part : ∀ (n : Nat) (p : Part), c.parts[n]? = some p → p.IsRegular (c.capture == some n)

/-- The chain itself, or one that is quoted in it at any depth. -/
def Encloses (c d : Chain) : Prop := d = c ∨ ∃ p, c.HasPart p ∧ p.inner? = some d

/-! ## Parts -/

theorem isEngineSign_of_name {t : Text} (h : isEngineName t = true) :
    ∀ c ∈ t, isEngineSign c = true := by
  simp only [isEngineName, Bool.and_eq_true, List.all_eq_true] at h
  intro c hc
  simpa [isEngineSign, or_assoc] using h.2 c hc

theorem Item.IsRead.signs {i : Item} (h : i.IsRead) : ∀ c ∈ i.name, isEngineSign c = true := by
  intro c hc
  refine isEngineSign_of_name h.engine c ?_
  unfold engineName
  split
  · exact List.mem_cons_of_mem _ hc
  · exact hc

theorem Item.IsRead.named {i : Item} (h : i.IsRead) (hcaptured : i.captured = false) :
    i.name ≠ [] ∧ i.name.head? ≠ some '*' := by
  have hengine := h.engine
  rw [engineName, hcaptured, if_neg Bool.false_ne_true] at hengine
  refine ⟨?_, fun hstar => ?_⟩
  · intro hnil
    rw [hnil] at hengine
    exact absurd hengine (by decide)
  · obtain ⟨r, hr⟩ := List.head?_eq_some_iff.mp hstar
    exact h.star hcaptured r hr

theorem beginsWith_of_unquote {engine body inner : Text} {distance : Option Binary64}
    (h : unquote engine body = .ok (inner, distance)) : Json.BeginsWith body inner := by
  unfold unquote at h
  dsimp only at h
  split at h
  · cases h
  · rename_i heq
    cases h
    exact Json.beginsWith_of_readList heq
  · rename_i heq
    cases h
    exact Json.beginsWith_of_readList heq
  · cases h

theorem part_body {name body : Text} {p : Part} (h : part Chain.read name body = .ok p) :
    (name ∈ nestedEngines ∧ ∃ u d, p.inner? = some d ∧ Json.BeginsWith body u ∧
      Chain.read u = .ok d) ∨
      (name ∉ nestedEngines ∧ p = .plain name body) := by
  have hmem : Text.isOneOf name nestedEngines = true ↔ name ∈ nestedEngines := by
    simp [Text.isOneOf]
  unfold part at h
  split at h
  · rename_i hnested
    obtain ⟨⟨u, distance⟩, hunquote, h⟩ := bind_eq_ok_iff.mp h
    obtain ⟨d, hread, h⟩ := bind_eq_ok_iff.mp h
    cases h
    exact .inl ⟨hmem.mp hnested, u, d, rfl, beginsWith_of_unquote hunquote, hread⟩
  · rename_i hplain
    cases h
    exact .inr ⟨fun hnested => hplain (hmem.mpr hnested), rfl⟩

theorem isRegular_part {captured : Bool} {p : Part}
    (hitem : Item.IsRead ⟨captured, p.name, p.source⟩)
    (hpart : part Chain.read p.name p.source = .ok p) : p.IsRegular captured := by
  rcases part_body hpart with ⟨hnested, u, d, hd, hbegins, hread⟩ | ⟨hplain, hp⟩
  · exact {
      trimmed := hitem.trimmed
      signs := hitem.signs
      named := hitem.named
      nested := iff_of_true (by rw [hd]; rfl) hnested
      text := fun hnot => absurd hnested hnot
      quoted := fun e he => ⟨u, hbegins, by rw [hread, Option.some.inj (hd.symm.trans he)]⟩ }
  · exact {
      trimmed := hitem.trimmed
      signs := hitem.signs
      named := hitem.named
      nested := iff_of_false (by rw [hp]; exact Bool.false_ne_true) hplain
      text := fun _ => by rw [hp]; rfl
      quoted := fun e he => absurd he (by rw [hp]; exact nofun) }

/-! ## Chains -/

theorem capture_of_foldlM {selector : Text} {s s' : Split} {segs : List Text}
    (h : segs.foldlM (Split.add selector) s = .ok s') (hs : ∀ n ∈ s.capture, n < s.parts.length) :
    ∀ n ∈ s'.capture, n < s'.parts.length := by
  induction segs generalizing s with
  | nil =>
    cases h
    exact hs
  | cons seg segs ih =>
    obtain ⟨s₁, hadd, hrest⟩ := bind_eq_ok_iff.mp h
    obtain ⟨i, -, hpush⟩ := add_eq_ok_iff.mp hadd
    exact ih hrest (Split.push_ok hpush hs).2

theorem split_capture {t : Text} {s : Split} (h : split t = .ok s) :
    ∀ n ∈ s.capture, n < s.parts.length := by
  rw [split_eq_scan (trim_ne_nil_of_split h)] at h
  exact capture_of_foldlM h (by simp)

theorem scan_ne_nil (s : Scanner) (before t : Text) : scan s before t ≠ [] := by
  fun_induction scan s before t with
  | case1 => simp
  | case2 s before c r s' h ih => exact ih
  | case3 => simp

theorem split_parts {t : Text} {s : Split} (h : split t = .ok s) : s.parts ≠ [] := by
  intro hnil
  have hitems : s.items = [] := by rw [Split.items, hnil]; rfl
  have hsegs := split_items h
  rw [hitems, List.map_nil, List.map_eq_nil_iff] at hsegs
  exact scan_ne_nil .start [] t hsegs

theorem isRegular_of_read {t : Text} {c : Chain} (h : Chain.read t = .ok c) : c.IsRegular := by
  have hsplit := split_of_read h
  refine ⟨?_, ?_, fun n p hp => ?_⟩
  · intro hnil
    exact split_parts hsplit (by simp [outline, hnil])
  · simpa [outline] using split_capture hsplit
  · have hitem : c.outline.items[n]? = some ⟨c.capture == some n, p.name, p.source⟩ := by
      rw [getElem?_items, hp]; rfl
    obtain ⟨g, -, hg⟩ := segment_of_mem (split_items hsplit) (List.mem_of_getElem? hitem)
    obtain ⟨a, -, hpart⟩ := mapM_mem (mapM_part_of_read h) (List.mem_of_getElem? hp)
    obtain ⟨hname, hsource⟩ := part_ok hpart
    rw [← hname, ← hsource] at hpart
    exact isRegular_part (isRead_of_item? hg) hpart

/-- A chain that was read is regular, and so is any that is quoted in it. What is captured names the
element. -/
theorem regular_throughout {t : Text} {c d : Chain} (h : Chain.read t = .ok c) (hd : c.Encloses d) :
    d.IsRegular ∧ ∀ n ∈ d.capture, d.base? = some n := by
  have hregular : d.IsRegular := by
    rcases hd with rfl | ⟨p, hp, hinner⟩
    · exact isRegular_of_read h
    · obtain ⟨u, hu⟩ := hp.inner_read h hinner
      exact isRegular_of_read hu
  refine ⟨hregular, fun n hn => ?_⟩
  rw [base?, hn, Option.filter_some, decide_eq_true (hregular.capture n hn)]
  rfl

/-- A captured heading above a text, and the chain that it quotes. -/
theorem regular_above_text :
    let raw : Text := "'Fruits' >> *above = \"li >> *internal:text=\\\"Plum\\\"\""
    let d : Chain := ⟨[.plain "css" "li", .plain "internal:text" "\"Plum\""], some 1⟩
    let p : Part := .nested "above" "\"li >> *internal:text=\\\"Plum\\\"\"" d none
    let c : Chain := ⟨[.plain "text" "'Fruits'", p], some 1⟩
    Chain.read raw = .ok c ∧ c.Encloses d ∧ d.IsRegular ∧ d.base? = some 1 := by
  intro raw d p c
  have hread : Chain.read raw = .ok c := by rfl
  have hencloses : c.Encloses d := .inr ⟨p, .here (List.mem_cons_of_mem _ List.mem_cons_self), rfl⟩
  obtain ⟨hregular, hbase⟩ := regular_throughout hread hencloses
  exact ⟨hread, hencloses, hregular, hbase 1 rfl⟩

end Chain

end Scenarist

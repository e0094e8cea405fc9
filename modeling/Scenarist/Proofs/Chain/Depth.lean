import Scenarist.Proofs.Chain.Room
import Scenarist.Proofs.Selector.Filters

/-! # How deep chains are quoted

A text that is quoted is shorter than the body that quotes it, which is shorter than the text it
stands in. So reading comes to an end without any room being given, and chains are quoted less deep
than their text is long.
-/

namespace Scenarist

/-! ## Depth -/

mutual

/-- How many chains are inside each other in a chain, without the chain itself. -/
def Chain.depth : Chain → Nat
  | ⟨parts, _⟩ => partsDepth parts

def partsDepth : List Part → Nat
  | [] => 0
  | p :: r => max (Part.depth p) (partsDepth r)

def Part.depth : Part → Nat
  | .plain _ _ => 0
  | .nested _ _ inner _ => Chain.depth inner + 1

end

mutual

/-- How many selectors are inside each other in a selector, without the selector itself. -/
def Selector.depth : Selector → Nat
  | ⟨_, _, _, filters, _⟩ => filtersDepth filters

def filtersDepth : Option Filters → Nat
  | none => 0
  | some f => Filters.depth f

def Filters.depth : Filters → Nat
  | ⟨_, _, _, has, hasNot⟩ => max (innerDepth has) (innerDepth hasNot)

def innerDepth : Option Selector → Nat
  | none => 0
  | some s => Selector.depth s + 1

end

theorem Part.depth_le_partsDepth {p : Part} {ps : List Part} (h : p ∈ ps) :
    p.depth ≤ partsDepth ps := by
  induction ps with
  | nil => cases h
  | cons q r ih =>
    unfold partsDepth
    rcases List.mem_cons.mp h with rfl | h
    · omega
    · have hle := ih h
      omega

theorem Part.depth_of_inner {p : Part} {d : Chain} (h : p.inner? = some d) :
    p.depth = d.depth + 1 := by
  cases p with
  | plain name source => cases h
  | nested name source inner distance =>
    obtain rfl := Option.some.inj h
    unfold Part.depth
    rfl

theorem partsDepth_cases (ps : List Part) :
    partsDepth ps = 0 ∨ ∃ p ∈ ps, ∃ d, p.inner? = some d ∧ partsDepth ps = d.depth + 1 := by
  induction ps with
  | nil => exact .inl rfl
  | cons p r ih =>
    unfold partsDepth
    rcases Nat.le_total p.depth (partsDepth r) with hle | hle
    · rw [Nat.max_eq_right hle]
      rcases ih with h | ⟨q, hq, d, hd, h⟩
      · exact .inl h
      · exact .inr ⟨q, List.mem_cons_of_mem _ hq, d, hd, h⟩
    · rw [Nat.max_eq_left hle]
      cases p with
      | plain name source => exact .inl rfl
      | nested name source inner distance =>
        exact .inr ⟨_, List.mem_cons_self, inner, rfl, Part.depth_of_inner rfl⟩

namespace Chain

theorem depth_eq (c : Chain) : c.depth = partsDepth c.parts := by
  obtain ⟨parts, capture⟩ := c
  rw [Chain.depth]

theorem depth_quoted {c d : Chain} {p : Part} (h : p ∈ c.parts) (hd : p.inner? = some d) :
    d.depth < c.depth := by
  have hle := p.depth_le_partsDepth h
  rw [p.depth_of_inner hd, ← depth_eq] at hle
  omega

theorem depth_cases (c : Chain) :
    c.depth = 0 ∨ ∃ p ∈ c.parts, ∃ d, p.inner? = some d ∧ c.depth = d.depth + 1 := by
  rw [depth_eq]
  exact partsDepth_cases c.parts

/-! ## Lengths -/

theorem impliedEngine_not_nested (t : Text) : (impliedEngine t).1 ∉ nestedEngines := by
  unfold impliedEngine
  dsimp only
  split
  · decide
  split <;> decide

theorem length_item {g : Text} {i : Item} (h : item? g = some i) (hname : i.name ∈ nestedEngines) :
    i.name.length + i.source.length + 1 ≤ g.length := by
  have hg := Text.length_trim_le g
  rcases item?_cases h with ⟨n, b, hpart, -, hengine, -, hsource⟩ | ⟨-, -, rfl⟩
  · have hn := Text.length_trim_le n
    have hb := Text.length_trim_le b
    have hstar : i.name.length ≤ i.engineName.length := by
      unfold Item.engineName
      split <;> simp
    rw [hengine] at hstar
    rw [hpart] at hg
    rw [hsource]
    simp only [List.length_append, List.length_cons] at hg
    omega
  · exact absurd hname (impliedEngine_not_nested _)

theorem length_nested {t : Text} {s : Split} (h : split t = .ok s) {name body : Text}
    (hp : (name, body) ∈ s.parts)
    (hname : name ∈ nestedEngines) : name.length + body.length + 1 ≤ t.length := by
  obtain ⟨n, hn, hpart⟩ := List.getElem_of_mem hp
  have hitem : (⟨s.capture == some n, name, body⟩ : Item) ∈ s.items := by
    refine List.mem_mapIdx.mpr ⟨n, hn, ?_⟩
    rw [hpart]
  obtain ⟨g, hg, hgitem⟩ := segment_of_mem (split_items h) hitem
  have hlen := length_item hgitem hname
  have hsegment := length_le_of_mem_scan hg
  simp only [List.length_nil] at hsegment
  dsimp only at hlen
  omega

theorem four_le_length_of_nested {name : Text} (h : name ∈ nestedEngines) : 4 ≤ name.length := by
  have hall : ∀ t ∈ nestedEngines, 4 ≤ t.length := by decide
  exact hall name h

/-! ## Reading without room -/

/-- The chain of a text, if `read` reads what is quoted in it. -/
def readBy (read : Text → Except Fault Chain) (t : Text) : Except Fault Chain :=
  split t >>= fun s => s.parts.mapM (fun p => part read p.1 p.2) >>= fun ps => .ok ⟨ps, s.capture⟩

/-- Reading what is quoted in the same way is the only way to read all texts. -/
theorem eq_read {f : Text → Except Fault Chain} (h : ∀ t, f t = readBy f t) (t : Text) :
    f t = read t := by
  induction hn : t.length using Nat.strongRecOn generalizing t with
  | _ n ih =>
    rw [h, read_eq, readBy]
    cases hsplit : split t with
    | error fault => rfl
    | ok s =>
      rw [ok_bind, ok_bind]
      refine congrArg (· >>= _) (mapM_congr fun p hp => part_congr fun u hu => ?_)
      have hbody := length_of_split hsplit p hp
      exact ih u.length (by omega) u rfl

/-- Every level takes seven characters: four of the engine's name, a sign and two quotes. -/
theorem depth_of_read {t : Text} {c : Chain} (h : read t = .ok c) : 7 * c.depth < t.length := by
  induction hn : t.length using Nat.strongRecOn generalizing t c with
  | _ n ih =>
    rcases c.depth_cases with hzero | ⟨p, hp, d, hd, hdepth⟩
    · have hne : t ≠ [] := by
        rintro rfl
        cases h
      have hpos := List.length_pos_iff.mpr hne
      omega
    · obtain ⟨⟨name, body⟩, hmem, hpart⟩ := mapM_mem (mapM_part_of_read h) hp
      unfold part at hpart
      split at hpart
      · rename_i hengine
        have hnested : name ∈ nestedEngines := by simpa [Text.isOneOf] using hengine
        obtain ⟨⟨u, distance⟩, hunquote, hpart⟩ := bind_eq_ok_iff.mp hpart
        obtain ⟨inner, hread, hpart⟩ := bind_eq_ok_iff.mp hpart
        obtain rfl := Except.ok.inj hpart
        obtain rfl := Option.some.inj hd
        have hquoted : u.length + 2 ≤ body.length := length_unquote hunquote
        have hbody := length_nested (split_of_read h) hmem hnested
        have hname := four_le_length_of_nested hnested
        have hinner := ih u.length (by omega) hread rfl
        omega
      · obtain rfl := Except.ok.inj hpart
        cases hd

/-! ## Selectors -/

theorem FilterKind.depth_update (k : FilterKind) (source : Text) {inner : Option Selector}
    {w : Narrowing} :
    (k.update source inner w).filters.depth ≤ max w.filters.depth (innerDepth inner) := by
  obtain ⟨⟨text, notText, visible, has, hasNot⟩, nth⟩ := w
  cases k <;> simp only [update, Filters.depth] <;> omega

theorem depth_narrow (w : Narrowing) (p : Part) (inner : Noted (Option Selector)) :
    (narrow w p inner).value.filters.depth ≤ max w.filters.depth (innerDepth inner.value) := by
  by_cases hp : p.engine ∈ filterEngines
  · obtain ⟨k, hk⟩ := FilterKind.mem_filterEngines.mp hp
    rw [narrow_kind k hk.symm]
    exact k.depth_update p.source
  · rw [narrow_other hp]
    exact Nat.le_max_left _ _

theorem depth_withFilters (e : Element) (f : Filters) (nth : Option Int32) :
    ({ (Selector.ofElement e).withFilters f with nth } : Selector).depth ≤ f.depth := by
  unfold Selector.withFilters
  dsimp only
  split <;> simp [Selector.depth, filtersDepth]

mutual

theorem depth_toSelector (raw : Text) : ∀ c : Chain, (c.toSelector raw).value.depth ≤ c.depth
  | ⟨parts, capture⟩ => by
    have hquery (t : Text) : (Selector.ofElement (.css t)).depth ≤ partsDepth parts := Nat.zero_le _
    rw [toSelector, Chain.depth]
    dsimp only
    split
    · exact hquery _
    split
    · exact hquery _
    split
    · exact hquery _
    · refine Nat.le_trans (depth_withFilters _ _ _)
        (Nat.le_trans (depth_narrowAll _ .none parts) ?_)
      exact Nat.max_le.mpr ⟨Nat.zero_le _, Nat.le_refl _⟩

theorem depth_narrowAll (skip : Nat) (w : Narrowing) :
    ∀ parts : List Part,
      (narrowAll skip w parts).value.filters.depth ≤ max w.filters.depth (partsDepth parts)
  | [] => by
    rw [narrowAll]
    exact Nat.le_max_left _ _
  | p :: r => by
    rw [partsDepth]
    cases skip with
    | succ n =>
      have hrest := depth_narrowAll n w r
      rw [narrowAll]
      omega
    | zero =>
      have hpart := depth_narrow w p (innerSelector p)
      have hinner := depth_innerSelector p
      have hrest := depth_narrowAll 0 (narrow w p (innerSelector p)).value r
      rw [narrowAll]
      dsimp only [Noted.andThen]
      omega

theorem depth_innerSelector : ∀ p : Part, innerDepth (innerSelector p).value ≤ p.depth
  | .plain _ _ => Nat.zero_le _
  | .nested _ _ inner _ => by
    have hinner := depth_toSelector inner.toText inner
    rw [innerSelector, Part.depth]
    dsimp only [Noted.map]
    rw [innerDepth]
    omega

end

/-! ## All texts -/

/-- A body with its engine's name is shorter than the text it stands in, and what it quotes is
shorter than the body. So there is one way to read all texts, for which any room as long as the text
is enough. In a chain that was read, chains are quoted less deep than its text is long, and in its
selector no deeper than in the chain. -/
theorem quoted_shorter (t : Text) :
    (∀ s name body, split t = .ok s → (name, body) ∈ s.parts → name ∈ nestedEngines →
      name.length + body.length + 1 ≤ t.length ∧
        ∀ quoted distance, unquote name body = .ok (quoted, distance) →
          quoted.length + 2 ≤ body.length) ∧
    (∀ f, (∀ u, f u = readBy f u) ↔ f = read) ∧
    (∀ room, t.length ≤ room → readWithin room t = read t) ∧
    ∀ c, read t = .ok c → c.depth < t.length ∧
      (∀ p ∈ c.parts, ∀ d, p.inner? = some d → d.depth < c.depth) ∧
      (c.toSelector t).value.depth ≤ c.depth := by
  refine ⟨fun s name body hsplit hp hname =>
    ⟨length_nested hsplit hp hname, fun _ _ => length_unquote⟩, fun f => ?_,
    fun room hroom => (read_eq_readWithin hroom).symm, fun c hread => ?_⟩
  · constructor
    · intro h
      funext u
      exact eq_read h u
    · rintro rfl
      exact read_eq
  · have hdepth := depth_of_read hread
    exact ⟨by omega, fun p hp d hd => depth_quoted hp hd, depth_toSelector t c⟩

/-- An item that has a list with an item in it. -/
theorem quoted_shorter_twice :
    let t : Text := "li >> internal:has=\"ul >> internal:has=\\\"li\\\"\""
    ∃ c, read t = .ok c ∧ c.depth = 2 ∧ c.depth < t.length := by
  intro t
  let li : Part := .plain "css" "li"
  let ul : Chain := ⟨[.plain "css" "ul", .nested "internal:has" "\"li\"" ⟨[li], none⟩ none], none⟩
  let c : Chain := ⟨[li, .nested "internal:has" "\"ul >> internal:has=\\\"li\\\"\"" ul none], none⟩
  have hread : read t = .ok c := by rfl
  obtain ⟨-, -, -, hdepth⟩ := quoted_shorter t
  exact ⟨c, hread, rfl, (hdepth c hread).1⟩

end Chain

end Scenarist

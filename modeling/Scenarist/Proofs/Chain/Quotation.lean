import Scenarist.Proofs.Json.Listed

/-! # What bodies quote

A body that quotes a chain is one string, or a string and a number with a comma between them. That
does not depend on the engine, so a distance is also read behind engines that compare no places.
-/

namespace Scenarist.Chain

/-! ## Bodies -/

/-- How a body quotes a text: alone, or with a number behind a comma. -/
inductive Quotes : (body quoted : Text) → (distance : Option Number) → Prop where
  | alone {body quoted : Text} (h : Json.read body = .ok (.string quoted)) : Quotes body quoted none
  | distant {first second quoted : Text} {n : Number}
      (hfirst : Json.read first = .ok (.string quoted))
    (hsecond : Json.read second = .ok (.number n)) : Quotes (first ++ ',' :: second) quoted (some n)

theorem unquote_eq_ok_iff {engine body quoted : Text} {distance : Option Binary64} :
    unquote engine body = .ok (quoted, distance) ↔
      ∃ n, Quotes body quoted n ∧ distance = n.map Number.toBinary64 := by
  unfold unquote
  dsimp only
  constructor
  · intro h
    split at h
    · cases h
    · rename_i hlist
      cases h
      exact ⟨none, .alone ((Json.readList_one_iff (.inl ⟨_, rfl⟩)).mp hlist), rfl⟩
    · rename_i n hlist
      cases h
      obtain ⟨x, y, rfl, hx, hy⟩ := (Json.readList_two_iff (.inl ⟨_, rfl⟩) (.inr ⟨_, rfl⟩)).mp hlist
      exact ⟨some n, .distant hx hy, rfl⟩
    · cases h
  · rintro ⟨_, hquotes, rfl⟩
    cases hquotes with
    | alone h => rw [(Json.readList_one_iff (.inl ⟨_, rfl⟩)).mpr h]; rfl
    | distant hfirst hsecond =>
      rw [(Json.readList_two_iff (.inl ⟨_, rfl⟩) (.inr ⟨_, rfl⟩)).mpr ⟨_, _, rfl, hfirst, hsecond⟩]
      rfl

/-! ## Parts -/

theorem part_eq_ok_iff {name body : Text} (hname : name ∈ nestedEngines) {p : Part} :
    part Chain.read name body = .ok p ↔
      ∃ quoted n inner, Quotes body quoted n ∧ Chain.read quoted = .ok inner ∧
      p = .nested name body inner (n.map Number.toBinary64) := by
  have hone : Text.isOneOf name nestedEngines = true := by simpa [Text.isOneOf] using hname
  rw [part, if_pos hone]
  constructor
  · intro h
    obtain ⟨⟨quoted, distance⟩, hunquote, h⟩ := bind_eq_ok_iff.mp h
    obtain ⟨inner, hinner, h⟩ := bind_eq_ok_iff.mp h
    cases h
    obtain ⟨n, hquotes, rfl⟩ := unquote_eq_ok_iff.mp hunquote
    exact ⟨quoted, n, inner, hquotes, hinner, rfl⟩
  · rintro ⟨quoted, n, inner, hquotes, hinner, rfl⟩
    rw [unquote_eq_ok_iff.mpr ⟨n, hquotes, rfl⟩, ok_bind]
    dsimp only
    rw [hinner]
    rfl

theorem part_plain {read : Text → Except Fault Chain} {name body : Text}
    (hname : name ∉ nestedEngines) :
    part read name body = .ok (.plain name body) := by
  have hone : ¬ Text.isOneOf name nestedEngines = true := by simpa [Text.isOneOf] using hname
  rw [part, if_neg hone]

theorem mapM_isOk_iff {ε α β : Type} {f : α → Except ε β} {l : List α} :
    (∃ bs, l.mapM f = .ok bs) ↔ ∀ a ∈ l, ∃ b, f a = .ok b := by
  induction l with
  | nil => exact iff_of_true ⟨[], rfl⟩ nofun
  | cons a l ih =>
    rw [List.forall_mem_cons, ← ih, List.mapM_cons]
    constructor
    · rintro ⟨bs, h⟩
      obtain ⟨b, hb, h⟩ := bind_eq_ok_iff.mp h
      obtain ⟨bs', hbs', -⟩ := bind_eq_ok_iff.mp h
      exact ⟨⟨b, hb⟩, bs', hbs'⟩
    · rintro ⟨⟨b, hb⟩, bs, hbs⟩
      exact ⟨b :: bs, by rw [hb, ok_bind, hbs]; rfl⟩

/-- A text is a chain just if it can be split and the bodies that should quote a chain do. -/
theorem read_isOk_iff {t : Text} :
    (∃ c, Chain.read t = .ok c) ↔ ∃ s, split t = .ok s ∧ ∀ p ∈ s.parts, p.1 ∈ nestedEngines →
      ∃ quoted n inner, Quotes p.2 quoted n ∧ Chain.read quoted = .ok inner := by
  have hpart : ∀ p : Text × Text, (∃ q, part Chain.read p.1 p.2 = .ok q) ↔
      (p.1 ∈ nestedEngines → ∃ quoted n inner, Quotes p.2 quoted n ∧
        Chain.read quoted = .ok inner) := by
    intro p
    by_cases hname : p.1 ∈ nestedEngines
    · simp [part_eq_ok_iff hname, hname]
    · simp [part_plain hname, hname]
  constructor
  · rintro ⟨c, h⟩
    rw [read_eq] at h
    obtain ⟨s, hsplit, h⟩ := bind_eq_ok_iff.mp h
    obtain ⟨ps, hps, -⟩ := bind_eq_ok_iff.mp h
    exact ⟨s, hsplit, fun p hp => (hpart p).mp (mapM_isOk_iff.mp ⟨ps, hps⟩ p hp)⟩
  · rintro ⟨s, hsplit, h⟩
    obtain ⟨ps, hps⟩ := mapM_isOk_iff.mpr fun p hp => (hpart p).mpr (h p hp)
    exact ⟨⟨ps, s.capture⟩, by rw [read_eq, hsplit, ok_bind, hps, ok_bind]⟩

/-! ## The engine's say -/

/-- The engines that compare places. -/
def layoutEngines : List Text := ["left-of", "right-of", "above", "below", "near"].map String.toList

/-- A body as its engine has a use for it: a quoted text, and a number behind it only if the engine
compares places. -/
def Suits (engine body : Text) : Prop :=
  (∃ quoted, Quotes body quoted none) ∨
    (engine ∈ layoutEngines ∧ ∃ quoted n, Quotes body quoted (some n))

theorem Quotes.not_alone {body quoted : Text} {n : Number} (h : Quotes body quoted (some n))
    (quoted' : Text) :
    ¬ Quotes body quoted' none := by
  intro halone
  have hsome : unquote [] body = .ok (quoted, some n.toBinary64) :=
    unquote_eq_ok_iff.mpr ⟨_, h, rfl⟩
  have hnone : unquote [] body = .ok (quoted', none) := unquote_eq_ok_iff.mpr ⟨_, halone, rfl⟩
  cases hsome.symm.trans hnone

theorem unquote_isOk_iff {engine body : Text} :
    (∃ r, unquote engine body = .ok r) ↔ ∃ quoted n, Quotes body quoted n := by
  constructor
  · rintro ⟨⟨quoted, distance⟩, h⟩
    obtain ⟨n, hquotes, -⟩ := unquote_eq_ok_iff.mp h
    exact ⟨quoted, n, hquotes⟩
  · rintro ⟨quoted, n, hquotes⟩
    exact ⟨_, unquote_eq_ok_iff.mpr ⟨n, hquotes, rfl⟩⟩

/-- What is accepted suits its engine, unless a number stands behind a text for an engine that
compares no places. -/
theorem accepts_suited_iff {engine body : Text} :
    ((∃ r, unquote engine body = .ok r) ↔ Suits engine body) ↔
      engine ∈ layoutEngines ∨ ¬ ∃ quoted n, Quotes body quoted (some n) := by
  rw [unquote_isOk_iff]
  constructor
  · intro hclaim
    by_cases hdistant : ∃ quoted n, Quotes body quoted (some n)
    · obtain ⟨quoted, n, h⟩ := hdistant
      rcases hclaim.mp ⟨quoted, some n, h⟩ with ⟨quoted', halone⟩ | ⟨hlayout, -⟩
      · exact absurd halone (h.not_alone quoted')
      · exact .inl hlayout
    · exact .inr hdistant
  · intro hcondition
    constructor
    · rintro ⟨quoted, n, h⟩
      cases n with
      | none => exact .inl ⟨quoted, h⟩
      | some n => exact .inr ⟨hcondition.resolve_right (not_not_intro ⟨quoted, n, h⟩), quoted, n, h⟩
    · rintro (⟨quoted, h⟩ | ⟨-, quoted, n, h⟩)
      · exact ⟨quoted, none, h⟩
      · exact ⟨quoted, some n, h⟩

/-- A body is accepted just if it is a string, or a string and a number, which is what suits its
engine unless that engine compares no places and there is a number. A text is accepted just if all
bodies that should quote a chain do. A part of a chain that was read, at any depth, has a distance
just if a number stands there, and its engine does not matter as long as it quotes a chain. -/
theorem quoted_exactly (engine body t : Text) :
    (∀ quoted distance, unquote engine body = .ok (quoted, distance) ↔
      ∃ n, Quotes body quoted n ∧ distance = n.map Number.toBinary64) ∧
    (((∃ r, unquote engine body = .ok r) ↔ Suits engine body) ↔
      engine ∈ layoutEngines ∨ ¬ ∃ quoted n, Quotes body quoted (some n)) ∧
    ((∃ c, Chain.read t = .ok c) ↔ ∃ s, split t = .ok s ∧ ∀ p ∈ s.parts, p.1 ∈ nestedEngines →
      ∃ quoted n inner, Quotes p.2 quoted n ∧ Chain.read quoted = .ok inner) ∧
    ∀ c p, Chain.read t = .ok c → c.HasPart p →
      (p.name ∈ nestedEngines → ∃ quoted n inner, Quotes p.source quoted n ∧
        Chain.read quoted = .ok inner ∧
        p = .nested p.name p.source inner (n.map Number.toBinary64)) ∧
      (p.name ∉ nestedEngines → p.distance? = none) := by
  refine ⟨fun _ _ => unquote_eq_ok_iff, accepts_suited_iff, read_isOk_iff, fun c p hread hp => ?_⟩
  have hpart := hp.part_read hread
  constructor
  · intro hname
    exact (part_eq_ok_iff hname).mp hpart
  · intro hname
    rw [part_plain hname] at hpart
    rw [← Except.ok.inj hpart]
    rfl

theorem read_one_part {t name body : Text} {capture : Option Nat} {p : Part}
    (hsplit : split t = .ok ⟨[(name, body)], capture⟩) (hp : part Chain.read name body = .ok p) :
    Chain.read t = .ok ⟨[p], capture⟩ := by
  rw [read_eq, hsplit, ok_bind, List.mapM_cons, List.mapM_nil, hp]
  rfl

theorem read_twenty : Json.read " 20" = .ok (.number (.integer 20 (by decide))) :=
  toOption_eq_some_iff.mp (by decide +kernel)

/-- Whatever is within twenty pixels of a list item. -/
theorem quoted_near :
    let body : Text := "\"li\" , 20"
    let p : Part :=
      .nested "near" body ⟨[.plain "css" "li"], none⟩
      (some (Number.integer 20 (by decide)).toBinary64)
    Chain.read ("near=" ++ body) = .ok ⟨[p], none⟩ ∧ p.name ∈ nestedEngines ∧
      ∃ quoted n inner, Quotes body quoted n ∧ Chain.read quoted = .ok inner ∧
        p = .nested "near" body inner (n.map Number.toBinary64) := by
  intro body p
  have hname : "near".toList ∈ nestedEngines := by decide
  have hquotes : Quotes body "li" (some _) :=
    .distant (show Json.read "\"li\" " = _ by rfl) read_twenty
  have hpart : part Chain.read "near" body = .ok p :=
    (part_eq_ok_iff hname).mpr ⟨_, _, _, hquotes, by rfl, rfl⟩
  have hread : Chain.read ("near=" ++ body) = .ok ⟨[p], none⟩ := read_one_part (by rfl) hpart
  obtain ⟨-, -, -, hparts⟩ := quoted_exactly "near" body ("near=" ++ body)
  exact ⟨hread, hname, (hparts _ p hread (.here List.mem_cons_self)).1 hname⟩

/-- What holds a link may be given a distance too, though only engines that compare places have a
use for one. -/
theorem distance_behind_has :
    let body : Text := "\"css=a\", 20"
    let p : Part := .nested "internal:has" body ⟨[.plain "css" "a"], none⟩
      (some (Number.integer 20 (by decide)).toBinary64)
    Chain.read ("internal:has=" ++ body) = .ok ⟨[p], none⟩ ∧
      ¬ ∀ engine ∈ nestedEngines, ∀ body, (∃ r, unquote engine body = .ok r) ↔
        Suits engine body := by
  intro body p
  have hname : "internal:has".toList ∈ nestedEngines := by decide
  have hquotes : Quotes body "css=a" (some _) :=
    .distant (show Json.read "\"css=a\"" = _ by rfl) read_twenty
  have hpart : part Chain.read "internal:has" body = .ok p :=
    (part_eq_ok_iff hname).mpr ⟨_, _, _, hquotes, by rfl, rfl⟩
  refine ⟨read_one_part (by rfl) hpart, fun hclaim => ?_⟩
  rcases accepts_suited_iff.mp (hclaim "internal:has" hname body) with hlayout | hdistant
  · exact absurd hlayout (by decide)
  · exact hdistant ⟨_, _, hquotes⟩

end Scenarist.Chain

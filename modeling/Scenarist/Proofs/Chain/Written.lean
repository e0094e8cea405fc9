import Scenarist.Chain.Reader
import Scenarist.Proofs.Chain.Joined
import Scenarist.Proofs.Json.Quoted
import Scenarist.Proofs.Text.Digits

/-! # Chains read back

A chain whose parts all name their engines is read from its text, to any depth of quotation.
-/

namespace Scenarist

/-- A part with its engine's name and its body. -/
def Part.written (p : Part) : Text := p.name ++ '=' :: p.source

namespace Chain

/-- The chain with every engine's name written out. -/
def written (c : Chain) : Text := Text.join " >> " (c.parts.map Part.written)

/-! ## Names -/

/-- The name marks no capture, and its part looks like no old text selector. -/
structure IsPlainName (name : Text) : Prop where
  engine : isEngineName name = true
  head : ∃ c r, name = c :: r ∧ c ≠ '*' ∧ c ≠ 't'

theorem engineChar_facts {name : Text} (h : isEngineName name = true) (c : Char) (hc : c ∈ name) :
    isInert c = true ∧ c ≠ '=' ∧ Text.isBlank c = false := by
  simp only [isEngineName, Bool.and_eq_true, List.all_eq_true] at h
  have hchar := h.2 c hc
  simp only [Bool.or_eq_true, beq_iff_eq] at hchar
  rcases hchar with ((((halnum | rfl) | rfl) | rfl) | rfl) | rfl
  · have hne := fun d => Text.ne_of_alphanum (d := d) halnum
    refine ⟨?_, hne '=' (by decide), Text.isBlank_alphanum halnum⟩
    simp [isInert, isQuote, hne '\\' (by decide), hne '>' (by decide), hne '"' (by decide),
      hne '\'' (by decide), hne '`' (by decide)]
  all_goals decide

theorem IsPlainName.trimmed {name : Text} (h : IsPlainName name) : Text.IsTrimmed name := by
  apply Text.isTrimmed_of_forall
  · obtain ⟨c, r, rfl, -, -⟩ := h.head
    simp
  · exact fun c hc => (engineChar_facts h.engine c hc).2.2

/-! ## One part -/

/-- A name and a body that are told apart when the part is read. -/
structure IsPlainPart (name body : Text) : Prop where
  name : IsPlainName name
  trimmed : Text.IsTrimmed body
  closed : Closed body

variable {name body : Text}

theorem IsPlainPart.isSegment (h : IsPlainPart name body) : IsSegment (name ++ '=' :: body) := by
  have hname := engineChar_facts h.name.engine
  obtain ⟨c, r, rfl, -, ht⟩ := h.name.head
  refine ⟨?_, ?_, ⟨c, r ++ '=' :: body, rfl, (hname c List.mem_cons_self).1, ht⟩⟩
  · obtain ⟨-, s, d, rfl, hd⟩ := h.trimmed
    exact ⟨⟨c, _, rfl, (hname c List.mem_cons_self).2.2⟩, ⟨c :: r ++ '=' :: s, d, by simp, hd⟩⟩
  · exact (Closed.of_inert _ fun d hd => (hname d hd).1).append (.inert '=' _ rfl h.closed)

theorem engineAndBody_written (h : IsPlainPart name body) :
    engineAndBody (name ++ '=' :: body) = (name, body) := by
  have hequals : '=' ∉ name := fun hmem => (engineChar_facts h.name.engine _ hmem).2.1 rfl
  rw [engineAndBody, Text.splitFirst?_append _ _ _ hequals]
  simp only [Text.trim_trimmed _ h.name.trimmed, Text.trim_trimmed _ h.trimmed]
  rw [if_pos h.name.engine]

theorem dropStar_plain (h : IsPlainName name) : dropStar name = (false, name) := by
  obtain ⟨c, r, rfl, hc, -⟩ := h.head
  rw [dropStar]
  rintro s ⟨⟩
  exact hc rfl

theorem add_written (selector : Text) (s : Split) (h : IsPlainPart name body) :
    Split.add selector s (name ++ '=' :: body) = .ok ⟨s.parts ++ [(name, body)], s.capture⟩ := by
  rw [Split.add, Text.trim_trimmed _ h.isSegment.trimmed]
  dsimp only
  rw [if_neg (by simp), engineAndBody_written h]
  dsimp only
  rw [dropStar_plain h.name]
  rfl

/-! ## All parts -/

theorem foldlM_add_written (selector : Text) (ps : List Part) (s : Split)
    (h : ∀ p ∈ ps, IsPlainPart p.name p.source) :
    (ps.map Part.written).foldlM (Split.add selector) s =
      .ok ⟨s.parts ++ ps.map fun p => (p.name, p.source), s.capture⟩ := by
  induction ps generalizing s with
  | nil => simp [pure, Except.pure]
  | cons p ps ih =>
    rw [List.map_cons, List.foldlM_cons, Part.written, add_written _ _ (h p List.mem_cons_self),
      ok_bind, ih _ fun q hq => h q (List.mem_cons_of_mem _ hq)]
    simp

theorem split_written (c : Chain) (hne : c.parts ≠ [])
    (h : ∀ p ∈ c.parts, IsPlainPart p.name p.source) :
    split c.written = .ok ⟨c.parts.map fun p => (p.name, p.source), none⟩ := by
  obtain ⟨p, ps, hps⟩ := List.exists_cons_of_ne_nil hne
  rw [hps] at h
  have hsegments : ∀ t ∈ p.written :: ps.map Part.written, IsSegment t := by
    intro t ht
    rw [← List.map_cons, List.mem_map] at ht
    obtain ⟨q, hq, rfl⟩ := ht
    exact (h q hq).isSegment
  rw [written, hps, List.map_cons, split_join _ _ hsegments, ← List.map_cons,
    foldlM_add_written _ _ _ h]
  rfl

/-! ## Quoted chains -/

theorem sealed_escapeChar (c : Char) : Sealed (Json.escapeChar c) := by
  have hpair : ∀ d, Sealed ['\\', d] := fun d => .pair d [] .nil
  unfold Json.escapeChar
  split
  · exact hpair '"'
  split
  · exact hpair '\\'
  split
  · exact hpair 'b'
  split
  · exact hpair 'f'
  split
  · exact hpair 'n'
  split
  · exact hpair 'r'
  split
  · exact hpair 't'
  split
  · rename_i h
    have hlt : c.toNat < 32 := h
    have digit : ∀ n < 16, Nat.digitChar n ≠ '"' ∧ Nat.digitChar n ≠ '\\' := by decide
    have h1 := digit (c.toNat / 16) (by omega)
    have h2 := digit (c.toNat % 16) (by omega)
    exact .pair 'u' _ (.char '0' _ (by decide) (by decide) (.char '0' _ (by decide) (by decide)
      (.char _ _ h1.1 h1.2 (.char _ _ h2.1 h2.2 .nil))))
  · rename_i hquote hback _ _ _ _ _ _
    exact .char c [] hquote hback .nil

theorem closed_quote (t : Text) : Closed (Json.quote t) := by
  rw [Json.quote_eq]
  exact .quoted _ [] (.flatMap _ sealed_escapeChar t) .nil

theorem isTrimmed_quote (t : Text) : Text.IsTrimmed (Json.quote t) :=
  ⟨⟨'"', _, Json.quote_eq t, rfl⟩, ⟨'"' :: t.flatMap Json.escapeChar, '"', rfl, rfl⟩⟩

theorem unquote_quote (engine t : Text) : unquote engine (Json.quote t) = .ok (t, none) := by
  rw [unquote, Json.readList_quote]

theorem length_lt_quote (t : Text) : t.length < (Json.quote t).length := by
  have hle : t.length ≤ (t.flatMap Json.escapeChar).length := by
    induction t with
    | nil => simp
    | cons c t ih =>
      have hpos : 0 < (Json.escapeChar c).length := by
        unfold Json.escapeChar Json.controlEscape
        repeat' split
        all_goals simp
      simp only [List.flatMap_cons, List.length_append, List.length_cons]
      omega
  rw [Json.quote_eq]
  simp only [List.length_cons, List.length_append]
  omega

/-! ## Reading -/

mutual

/-- The chain has a part, captures none, and all its parts are read back. -/
inductive Legible : Chain → Prop where
  | intro (p : Part) (ps : List Part) (h : ∀ q ∈ p :: ps, LegiblePart q) :
    Legible ⟨p :: ps, none⟩

/-- A part that quotes no chain, or quotes one as it is written, without a distance. -/
inductive LegiblePart : Part → Prop where
  | plain (name body : Text) (h : IsPlainPart name body)
    (hn : Text.isOneOf name nestedEngines = false) : LegiblePart (.plain name body)
  | nested (name : Text) (inner : Chain) (h : IsPlainName name)
    (hn : Text.isOneOf name nestedEngines = true) (hi : Legible inner) :
    LegiblePart (.nested name (Json.quote inner.written) inner none)

end

theorem LegiblePart.isPlainPart {p : Part} (h : LegiblePart p) : IsPlainPart p.name p.source := by
  cases h with
  | plain name body h _ => exact h
  | nested name inner h _ _ => exact ⟨h, isTrimmed_quote _, closed_quote _⟩

theorem mapM_ok {ε α β : Type} (f : α → Except ε β) (g : β → α) (l : List β)
    (h : ∀ b ∈ l, f (g b) = .ok b) : (l.map g).mapM f = .ok l := by
  induction l with
  | nil => rfl
  | cons b l ih =>
    rw [List.map_cons, List.mapM_cons, h b List.mem_cons_self, ok_bind,
      ih fun c hc => h c (List.mem_cons_of_mem _ hc)]
    rfl

theorem length_le_written (c : Chain) (p : Part) (h : p ∈ c.parts) :
    p.name.length + p.source.length < c.written.length := by
  have hle := Text.length_le_join " >> " p.written (c.parts.map Part.written)
    (List.mem_map_of_mem h)
  rw [Part.written, List.length_append, List.length_cons] at hle
  unfold written
  omega

theorem readWithin_written (n : Nat) (c : Chain) (h : Legible c) (hn : c.written.length ≤ n) :
    readWithin n c.written = .ok c := by
  induction n generalizing c with
  | zero =>
    cases h with
    | intro p ps h =>
      have hlen := length_le_written ⟨p :: ps, none⟩ p List.mem_cons_self
      omega
  | succ n ih =>
    cases h with
    | intro p ps h =>
      have hparts : ∀ q ∈ p :: ps, part (readWithin n) q.name q.source = .ok q := by
        intro q hq
        have hlen := length_le_written ⟨p :: ps, none⟩ q hq
        have hlegible := h q hq
        cases hlegible with
        | plain name body _ hname =>
          simp [part, Part.name, Part.source, hname]
        | nested name inner _ hname hinner =>
          have hquote := length_lt_quote inner.written
          have hread : readWithin n inner.written = .ok inner := by
            apply ih inner hinner
            simp only [Part.name, Part.source] at hlen
            omega
          rw [Part.name, Part.source, part, if_pos hname, unquote_quote, ok_bind]
          dsimp only
          rw [hread]
          rfl
      rw [readWithin, split_written _ (by simp) fun q hq => (h q hq).isPlainPart, ok_bind]
      dsimp only
      rw [mapM_ok _ (fun q : Part => (q.name, q.source)) _ hparts]
      rfl

/-- A chain is read from its text. -/
theorem read_written (c : Chain) (h : Legible c) : Chain.read c.written = .ok c :=
  readWithin_written _ c h (Nat.le_refl _)

end Chain

end Scenarist

import Scenarist.Proofs.Chain.Items

/-! # Room for quoted chains

A string is shorter than the text that quotes it, so the length of a text is room enough to read its
chain, and more room changes nothing. What is read of a text is settled by what it is split into.
-/

namespace Scenarist

/-! ## Strings -/

namespace Json

theorem length_skipSpace_le (t : Text) : (skipSpace t).length ≤ t.length :=
  (List.dropWhile_sublist _).length_le

theorem length_stringBody {skip : Nat} {t s rest : Text} (h : stringBody skip t = .ok (s, rest)) :
    s.length + rest.length + 1 + skip ≤ t.length := by
  induction t generalizing skip s with
  | nil => cases skip <;> cases h
  | cons c r ih =>
    cases skip with
    | succ n =>
      have hlen := ih h
      simp only [List.length_cons]
      omega
    | zero =>
      rw [stringBody] at h
      split at h
      · cases h
        simp
      split at h
      · obtain ⟨⟨d, n⟩, -, h⟩ := bind_eq_ok_iff.mp h
        obtain ⟨⟨u, rest'⟩, hu, h⟩ := bind_eq_ok_iff.mp h
        cases h
        have hlen := ih hu
        simp only [List.length_cons]
        omega
      split at h
      · cases h
      · obtain ⟨⟨u, rest'⟩, hu, h⟩ := bind_eq_ok_iff.mp h
        cases h
        have hlen := ih hu
        simp only [List.length_cons]
        omega

/-- A value is read of a text, the first character of which settles what kind it is. -/
inductive ReadsValue : Nat → Text → Json → Text → Prop where
  | null {depth : Nat} {r rest : Text} (h : word "ull" r = .ok rest) :
      ReadsValue depth ('n' :: r) .null rest
  | yes {depth : Nat} {r rest : Text} (h : word "rue" r = .ok rest) :
      ReadsValue depth ('t' :: r) (.bool true) rest
  | no {depth : Nat} {r rest : Text} (h : word "alse" r = .ok rest) :
      ReadsValue depth ('f' :: r) (.bool false) rest
  | string {depth : Nat} {r s rest : Text} (h : stringBody 0 r = .ok (s, rest)) :
    ReadsValue depth ('"' :: r) (.string s) rest
  | minus {depth : Nat} {r rest : Text} {n : Number} (h : numberBody true r = .ok (n, rest)) :
    ReadsValue depth ('-' :: r) (.number n) rest
  | digit {depth : Nat} {c : Char} {r rest : Text} {n : Number} (hc : c.isDigit = true)
    (h : numberBody false (c :: r) = .ok (n, rest)) : ReadsValue depth (c :: r) (.number n) rest
  | array {depth : Nat} {r rest : Text} {vs : List Json}
    (h : items (value depth) (r.length + 1) true r = .ok (vs, rest)) :
      ReadsValue (depth + 1) ('[' :: r) (.array vs) rest
  | object {depth : Nat} {r inner rest : Text} {ms : List (Text × Json)} {v : Json}
    (h : members (value depth) (r.length + 1) true r = .ok (ms, inner))
      (hend : objectEnd inner = .ok rest)
    (hv : v = ofMembers ms) : ReadsValue (depth + 1) ('\x7b' :: r) v rest

theorem value_reads {depth : Nat} {t rest : Text} {v : Json} (h : value depth t = .ok (v, rest)) :
    ReadsValue depth (skipSpace t) v rest := by
  unfold value at h
  split at h
  · cases h
  · rename_i r hr
    obtain ⟨_, hword, h⟩ := bind_eq_ok_iff.mp h
    cases h
    exact hr ▸ .null hword
  · rename_i r hr
    obtain ⟨_, hword, h⟩ := bind_eq_ok_iff.mp h
    cases h
    exact hr ▸ .yes hword
  · rename_i r hr
    obtain ⟨_, hword, h⟩ := bind_eq_ok_iff.mp h
    cases h
    exact hr ▸ .no hword
  · rename_i r hr
    obtain ⟨_, hbody, h⟩ := bind_eq_ok_iff.mp h
    cases h
    exact hr ▸ .string hbody
  · rename_i r hr
    obtain ⟨_, hbody, h⟩ := bind_eq_ok_iff.mp h
    cases h
    exact hr ▸ .minus hbody
  · rename_i r hr
    cases depth with
    | zero => cases h
    | succ d =>
      obtain ⟨_, hitems, h⟩ := bind_eq_ok_iff.mp h
      cases h
      exact hr ▸ .array hitems
  · rename_i r hr
    cases depth with
    | zero => cases h
    | succ d =>
      obtain ⟨_, hmembers, h⟩ := bind_eq_ok_iff.mp h
      obtain ⟨_, hend, h⟩ := bind_eq_ok_iff.mp h
      cases h
      exact hr ▸ .object hmembers hend rfl
  · rename_i c r _ _ _ _ _ _ _ hr
    split at h
    · rename_i hc
      obtain ⟨_, hbody, h⟩ := bind_eq_ok_iff.mp h
      cases h
      exact hr ▸ .digit hc hbody
    · cases h

theorem value_string {depth : Nat} {t s rest : Text} (h : value depth t = .ok (.string s, rest)) :
    ∃ r, skipSpace t = '"' :: r ∧ stringBody 0 r = .ok (s, rest) := by
  have hreads := value_reads h
  generalize skipSpace t = u at hreads
  cases hreads with
  | string hbody => exact ⟨_, rfl, hbody⟩
  | object _ _ hv => cases hv

theorem length_value_string {depth : Nat} {t s rest : Text}
    (h : value depth t = .ok (.string s, rest)) :
    s.length + rest.length + 2 ≤ t.length := by
  obtain ⟨r, hr, hbody⟩ := value_string h
  have hspace := length_skipSpace_le t
  have hlen := length_stringBody hbody
  rw [hr, List.length_cons] at hspace
  omega

theorem length_items_string {depth n : Nat} {t s rest : Text} {vs : List Json}
    (h : items (value depth) (n + 1) true t = .ok (.string s :: vs, rest)) (hn : 0 < n) :
      s.length + 3 ≤ t.length := by
  have hspace := length_skipSpace_le t
  rw [items] at h
  split at h
  · cases h
  · cases h
  · rename_i c r _ hr
    obtain ⟨start, hstart, h⟩ := bind_eq_ok_iff.mp h
    obtain ⟨⟨v, after⟩, hv, h⟩ := bind_eq_ok_iff.mp h
    obtain ⟨⟨vs', rest'⟩, hrest, h⟩ := bind_eq_ok_iff.mp h
    cases h
    obtain rfl : c :: r = start := by simpa [items.nextItem] using hstart
    have hlen := length_value_string hv
    have hafter : after ≠ [] := by
      rintro rfl
      obtain ⟨m, rfl⟩ := Nat.exists_eq_add_of_lt hn
      cases hrest
    have hpos := List.length_pos_iff.mpr hafter
    rw [hr] at hspace
    omega

theorem length_readList_string {body s : Text} {vs : List Json}
    (h : readList ('[' :: body ++ [']']) = .ok (.string s :: vs)) :
    s.length + 2 ≤ body.length := by
  rw [readList, whole, List.cons_append, skipSpace_cons _ rfl] at h
  obtain ⟨⟨v, rest⟩, hitems, h⟩ := bind_eq_ok_iff.mp h
  obtain ⟨_, -, h⟩ := bind_eq_ok_iff.mp h
  cases h
  have hlen := length_items_string hitems (by simp)
  simp only [List.length_append, List.length_singleton] at hlen
  omega

end Json

/-! ## Reading in any room -/

namespace Chain

theorem length_unquote {engine body inner : Text} {distance : Option Binary64}
    (h : unquote engine body = .ok (inner, distance)) :
    inner.length + 2 ≤ body.length := by
  unfold unquote at h
  dsimp only at h
  split at h
  · cases h
  · rename_i heq
    cases h
    exact Json.length_readList_string heq
  · rename_i heq
    cases h
    exact Json.length_readList_string heq
  · cases h

theorem part_congr {f g : Text → Except Fault Chain} {name body : Text}
    (h : ∀ u : Text, u.length < body.length → f u = g u) :
    part f name body = part g name body := by
  unfold part
  split
  · cases hunquote : unquote name body with
    | error fault => rfl
    | ok quoted =>
      obtain ⟨inner, distance⟩ := quoted
      rw [ok_bind, ok_bind]
      dsimp only
      have hlen := length_unquote hunquote
      rw [h inner (by omega)]
  · rfl

theorem mapM_congr {ε α β : Type} {f g : α → Except ε β} {l : List α} (h : ∀ a ∈ l, f a = g a) :
    l.mapM f = l.mapM g := by
  induction l with
  | nil => rfl
  | cons a l ih =>
    rw [List.mapM_cons, List.mapM_cons, h a List.mem_cons_self, ih fun b hb =>
      h b (List.mem_cons_of_mem _ hb)]

theorem mapM_mem {ε α β : Type} {f : α → Except ε β} {l : List α} {bs : List β}
    (h : l.mapM f = .ok bs) {b : β} (hb : b ∈ bs) :
    ∃ a ∈ l, f a = .ok b := by
  induction l generalizing bs with
  | nil =>
    cases h
    cases hb
  | cons a l ih =>
    rw [List.mapM_cons] at h
    obtain ⟨b', hfirst, h⟩ := bind_eq_ok_iff.mp h
    obtain ⟨bs', hrest, h⟩ := bind_eq_ok_iff.mp h
    cases h
    rcases List.mem_cons.mp hb with rfl | hb
    · exact ⟨a, List.mem_cons_self, hfirst⟩
    · obtain ⟨a', ha', hab⟩ := ih hrest hb
      exact ⟨a', List.mem_cons_of_mem _ ha', hab⟩

theorem length_of_split {t : Text} {s : Split} (h : split t = .ok s) :
    ∀ p ∈ s.parts, p.2.length ≤ t.length := by
  intro p hp
  obtain ⟨n, hn, rfl⟩ := List.getElem_of_mem hp
  have hitem : (⟨s.capture == some n, s.parts[n].1, s.parts[n].2⟩ : Item) ∈ s.items :=
    List.mem_mapIdx.mpr ⟨n, hn, rfl⟩
  obtain ⟨g, hg, hgitem⟩ := segment_of_mem (split_items h) hitem
  obtain ⟨a, z, rfl, -, -⟩ := source_of_item? hgitem
  have hlen := length_le_of_mem_scan hg
  simp only [List.length_append, List.length_nil] at hlen
  omega

/-- Any room that a text fits in is room enough. -/
theorem readWithin_eq_readWithin {m n : Nat} {t : Text} (hm : t.length ≤ m) (hn : t.length ≤ n) :
    readWithin m t = readWithin n t := by
  induction m generalizing n t with
  | zero =>
    obtain rfl : t = [] := List.eq_nil_of_length_eq_zero (Nat.le_zero.mp hm)
    cases n <;> rfl
  | succ m ih =>
    cases n with
    | zero =>
      obtain rfl : t = [] := List.eq_nil_of_length_eq_zero (Nat.le_zero.mp hn)
      rfl
    | succ n =>
      rw [readWithin, readWithin]
      cases hsplit : split t with
      | error fault => rfl
      | ok s =>
        rw [ok_bind, ok_bind]
        refine congrArg (· >>= _) (mapM_congr fun p hp => part_congr fun u hu => ?_)
        have hbody := length_of_split hsplit p hp
        exact ih (by omega) (by omega)

/-! ## What is read -/

/-- The names and bodies of the parts. -/
def outline (c : Chain) : Split := ⟨c.parts.map fun p => (p.name, p.source), c.capture⟩

theorem part_ok {read : Text → Except Fault Chain} {name body : Text} {p : Part}
    (h : part read name body = .ok p) :
    p.name = name ∧ p.source = body := by
  unfold part at h
  split at h
  · obtain ⟨⟨inner, distance⟩, -, h⟩ := bind_eq_ok_iff.mp h
    obtain ⟨c, -, h⟩ := bind_eq_ok_iff.mp h
    cases h
    exact ⟨rfl, rfl⟩
  · cases h
    exact ⟨rfl, rfl⟩

theorem part_inner {read : Text → Except Fault Chain} {name body : Text} {p : Part} {d : Chain}
    (h : part read name body = .ok p) (hd : p.inner? = some d) : ∃ u, read u = .ok d := by
  unfold part at h
  split at h
  · obtain ⟨⟨u, distance⟩, -, h⟩ := bind_eq_ok_iff.mp h
    obtain ⟨inner, hread, h⟩ := bind_eq_ok_iff.mp h
    cases h
    obtain rfl := Option.some.inj hd
    exact ⟨u, hread⟩
  · cases h
    cases hd

theorem mapM_part_ok {read : Text → Except Fault Chain} {l : List (Text × Text)} {ps : List Part}
    (h : l.mapM (fun p => part read p.1 p.2) = .ok ps) :
      ps.map (fun p => (p.name, p.source)) = l := by
  induction l generalizing ps with
  | nil =>
    cases h
    rfl
  | cons a l ih =>
    rw [List.mapM_cons] at h
    obtain ⟨p, hp, h⟩ := bind_eq_ok_iff.mp h
    obtain ⟨qs, hqs, h⟩ := bind_eq_ok_iff.mp h
    cases h
    obtain ⟨hname, hsource⟩ := part_ok hp
    rw [List.map_cons, ih hqs, hname, hsource]

theorem readWithin_succ (n : Nat) (t : Text) :
    readWithin (n + 1) t = split t >>= fun s =>
      s.parts.mapM (fun p => part (readWithin n) p.1 p.2) >>= fun ps =>
      .ok ⟨ps, s.capture⟩ := rfl

theorem read_eq_readWithin {n : Nat} {t : Text} (h : t.length ≤ n) : read t = readWithin n t :=
  readWithin_eq_readWithin (Nat.le_refl _) h

theorem read_eq (t : Text) :
    read t = split t >>= fun s => s.parts.mapM (fun p => part read p.1 p.2) >>= fun ps =>
      .ok ⟨ps, s.capture⟩ := by
  rw [read_eq_readWithin (Nat.le_succ t.length), readWithin_succ]
  cases hsplit : split t with
  | error fault => rfl
  | ok s =>
    rw [ok_bind, ok_bind]
    refine congrArg (· >>= _) (mapM_congr fun p hp => part_congr fun u hu => ?_)
    have hbody := length_of_split hsplit p hp
    exact (read_eq_readWithin (by omega)).symm

theorem mapM_part_of_read {t : Text} {c : Chain} (h : read t = .ok c) :
    c.outline.parts.mapM (fun p => part read p.1 p.2) = .ok c.parts := by
  rw [read_eq] at h
  obtain ⟨s, -, h⟩ := bind_eq_ok_iff.mp h
  obtain ⟨ps, hps, h⟩ := bind_eq_ok_iff.mp h
  cases h
  rw [outline]
  dsimp only
  rw [mapM_part_ok hps, hps]

theorem split_of_read {t : Text} {c : Chain} (h : read t = .ok c) : split t = .ok c.outline := by
  rw [read_eq_readWithin (Nat.le_succ t.length), readWithin_succ] at h
  obtain ⟨s, hsplit, h⟩ := bind_eq_ok_iff.mp h
  obtain ⟨ps, hps, h⟩ := bind_eq_ok_iff.mp h
  cases h
  rw [hsplit, outline, mapM_part_ok hps]

theorem read_congr {t t' : Text} (h : split t = split t') : read t = read t' := by
  have hroom : t.length ≤ t.length + t'.length + 1 ∧ t'.length ≤ t.length + t'.length + 1 := by
    omega
  rw [read_eq_readWithin hroom.1, read_eq_readWithin hroom.2, readWithin_succ, readWithin_succ, h]

theorem read_eq_ok_iff {t t' : Text} {c : Chain} (h : read t = .ok c) :
    read t' = .ok c ↔ split t' = .ok c.outline :=
  ⟨split_of_read, fun hsplit => (read_congr (hsplit.trans (split_of_read h).symm)).trans h⟩

/-! ## Parts at any depth -/

/-- The part is in the chain or, at any depth, in a chain that is quoted there. -/
inductive HasPart : Chain → Part → Prop where
  | here {c : Chain} {p : Part} (h : p ∈ c.parts) : HasPart c p
  | quoted {c d : Chain} {p q : Part} (h : q ∈ c.parts) (hq : q.inner? = some d)
      (hp : HasPart d p) : HasPart c p

theorem HasPart.part_read {c : Chain} {p : Part} (h : c.HasPart p) {t : Text}
    (hread : Chain.read t = .ok c) :
    part Chain.read p.name p.source = .ok p := by
  induction h generalizing t with
  | here hp =>
    obtain ⟨a, -, hpart⟩ := mapM_mem (mapM_part_of_read hread) hp
    obtain ⟨hname, hsource⟩ := part_ok hpart
    rwa [hname, hsource]
  | quoted hq hinner _ ih =>
    obtain ⟨a, -, hpart⟩ := mapM_mem (mapM_part_of_read hread) hq
    obtain ⟨u, hu⟩ := part_inner hpart hinner
    exact ih hu

theorem HasPart.inner_read {c d : Chain} {p : Part} (h : c.HasPart p) {t : Text}
    (hread : Chain.read t = .ok c)
    (hd : p.inner? = some d) : ∃ u, Chain.read u = .ok d :=
  part_inner (h.part_read hread) hd

end Chain

end Scenarist

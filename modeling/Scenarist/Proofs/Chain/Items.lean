import Scenarist.Proofs.Chain.Written

/-! # What a segment says

A segment says an engine's name, whether its part is captured, and a body. A text is split into what
its segments say; and what is written for a part says the part again, unless it is a query whose
form tells another engine.
-/

namespace Scenarist.Chain

/-! ## Items -/

/-- A part before its body is read. -/
structure Item where
  captured : Bool
  name : Text
  source : Text
deriving DecidableEq

/-- What a segment says. A blank one says nothing. -/
def item? (segment : Text) : Option Item :=
  let part := Text.trim segment
  if part = [] then none
  else
    let said := engineAndBody part
    let star := dropStar said.1
    some ⟨star.1, star.2, said.2⟩

/-- The next part is what was said. -/
def Split.push (selector : Text) (s : Split) (i : Item) : Except Fault Split :=
  let parts := s.parts ++ [(i.name, i.source)]
  if i.captured then
    if s.capture.isSome then .error (.severalCaptures selector)
      else .ok ⟨parts, some s.parts.length⟩
  else .ok ⟨parts, s.capture⟩

theorem segment_of_mem {gs : List Text} {is : List Item} {i : Item} (h : gs.map item? = is.map some)
    (hi : i ∈ is) :
    ∃ g ∈ gs, item? g = some i := by
  have hmem : some i ∈ gs.map item? := by
    rw [h]
    exact List.mem_map_of_mem hi
  obtain ⟨g, hg, hgi⟩ := List.mem_map.mp hmem
  exact ⟨g, hg, hgi⟩

theorem item_of_mem {gs : List Text} {is : List Item} {g : Text} (h : gs.map item? = is.map some)
    (hg : g ∈ gs) :
    ∃ i ∈ is, item? g = some i := by
  have hmem : item? g ∈ is.map some := by
    rw [← h]
    exact List.mem_map_of_mem hg
  obtain ⟨i, hi, hgi⟩ := List.mem_map.mp hmem
  exact ⟨i, hi, hgi.symm⟩

/-- What the parts say. -/
def Split.items (s : Split) : List Item := s.parts.mapIdx fun n p => ⟨s.capture == some n, p.1, p.2⟩

theorem item?_pad {a z : Text} (t : Text) (ha : ∀ c ∈ a, Text.isBlank c = true)
    (hz : ∀ c ∈ z, Text.isBlank c = true) :
    item? (a ++ (t ++ z)) = item? t := by
  rw [item?, item?, Text.trim_pad a t z ha hz]

theorem add_eq (selector : Text) (s : Split) (segment : Text) :
    Split.add selector s segment =
      (item? segment).elim (.error (.emptyPart selector)) (s.push selector) := by
  unfold Split.add item?
  dsimp only
  split
  · rfl
  · rfl

variable {selector : Text} {s s' : Split} {i : Item}

theorem add_eq_ok_iff {segment : Text} :
    Split.add selector s segment = .ok s' ↔
      ∃ i, item? segment = some i ∧ s.push selector i = .ok s' := by
  rw [add_eq]
  cases item? segment <;> simp

theorem Split.push_ok (h : s.push selector i = .ok s') (hs : ∀ n ∈ s.capture, n < s.parts.length) :
    s'.items = s.items ++ [i] ∧ ∀ n ∈ s'.capture, n < s'.parts.length := by
  obtain ⟨captured, name, source⟩ := i
  cases captured with
  | false =>
    obtain rfl := Except.ok.inj h
    have hnot : (s.capture == some s.parts.length) = false := by
      rw [beq_eq_false_iff_ne]
      intro heq
      exact Nat.lt_irrefl _ (hs _ heq)
    refine ⟨?_, fun n hn => Nat.lt_of_lt_of_le (hs n hn) (by simp)⟩
    simp [items, List.mapIdx_concat, hnot]
  | true =>
    unfold push at h
    dsimp only at h
    rw [if_pos rfl] at h
    split at h
    · cases h
    · rename_i hcapture
      obtain rfl := Except.ok.inj h
      have hnone : s.capture = none := by simpa using hcapture
      have hearlier :
          (s.parts.mapIdx fun n p => (⟨some s.parts.length == some n, p.1, p.2⟩ : Item)) =
            s.items := by
        rw [items, List.mapIdx_eq_mapIdx_iff]
        intro n hn
        simp [hnone, Nat.ne_of_gt hn]
      refine ⟨?_, by simp⟩
      simp only [items, List.mapIdx_concat] at hearlier ⊢
      rw [hearlier]
      simp

theorem Split.push_selector (h : s.push selector i = .ok s') (other : Text) :
    s.push other i = .ok s' := by
  unfold push at h ⊢
  dsimp only at h ⊢
  split at h
  · rename_i hcaptured
    split at h
    · cases h
    · rename_i hcapture
      rw [if_pos hcaptured, if_neg hcapture, h]
  · rename_i hcaptured
    rw [if_neg hcaptured, h]

theorem foldlM_add_items {segs : List Text} (h : segs.foldlM (Split.add selector) s = .ok s')
    (hs : ∀ n ∈ s.capture, n < s.parts.length) :
    ∃ is : List Item, s'.items = s.items ++ is ∧ segs.map item? = is.map some := by
  induction segs generalizing s with
  | nil =>
    obtain rfl := Except.ok.inj h
    exact ⟨[], by simp, rfl⟩
  | cons seg segs ih =>
    obtain ⟨s₁, hadd, hrest⟩ := bind_eq_ok_iff.mp h
    obtain ⟨i, hitem, hpush⟩ := add_eq_ok_iff.mp hadd
    obtain ⟨hitems, hcapture⟩ := Split.push_ok hpush hs
    obtain ⟨is, his, hsegs⟩ := ih hrest hcapture
    exact ⟨i :: is, by simp [his, hitems], by simp [hitem, hsegs]⟩

theorem foldlM_add_congr {segs segs' : List Text} (h : segs.foldlM (Split.add selector) s = .ok s')
    (hsegs : segs'.map item? = segs.map item?) (other : Text) :
      segs'.foldlM (Split.add other) s = .ok s' := by
  induction segs generalizing s segs' with
  | nil =>
    obtain rfl := List.map_eq_nil_iff.mp hsegs
    exact h
  | cons seg segs ih =>
    cases segs' with
    | nil => cases hsegs
    | cons seg' segs' =>
      obtain ⟨hhead, htail⟩ := List.cons.inj hsegs
      obtain ⟨s₁, hadd, hrest⟩ := bind_eq_ok_iff.mp h
      obtain ⟨i, hitem, hpush⟩ := add_eq_ok_iff.mp hadd
      have hadd' : Split.add other s seg' = .ok s₁ :=
        add_eq_ok_iff.mpr ⟨i, hhead.trans hitem, Split.push_selector hpush other⟩
      rw [List.foldlM_cons, hadd', ok_bind]
      exact ih hrest htail

/-! ## Splitting -/

theorem scan_of_blank {t : Text} (h : ∀ c ∈ t, Text.isBlank c = true) : scan .start [] t = [t] := by
  have hinert : ∀ c ∈ t, isInert c = true := fun c hc => isBlank_inert (h c hc)
  have hthrough := scan_through (Scanner.run_start_inert hinert) [] [] (isNeutral_inert hinert)
  simpa [scan] using hthrough

theorem trim_ne_nil_of_split {t : Text} (h : split t = .ok s) : Text.trim t ≠ [] := by
  intro hblank
  rw [split, if_pos hblank] at h
  cases h

theorem split_items {t : Text} (h : split t = .ok s) :
    (scan .start [] t).map item? = s.items.map some := by
  rw [split_eq_scan (trim_ne_nil_of_split h)] at h
  obtain ⟨is, his, hsegs⟩ := foldlM_add_items h (by simp)
  rw [hsegs, his]
  rfl

theorem split_eq_ok_iff {t t' : Text} (h : split t = .ok s) :
    split t' = .ok s ↔ (scan .start [] t').map item? = s.items.map some := by
  refine ⟨split_items, fun hsame => ?_⟩
  have hne : Text.trim t' ≠ [] := by
    intro hblank
    rw [scan_of_blank (Text.trim_eq_nil_iff.mp hblank)] at hsame
    have hnone : item? t' = none := by simp [item?, hblank]
    have hmem : none ∈ s.items.map some := by
      rw [← hsame]
      simp [hnone]
    simp at hmem
  have hsegs := hsame.trans (split_items h).symm
  rw [split_eq_scan (trim_ne_nil_of_split h)] at h
  rw [split_eq_scan hne]
  exact foldlM_add_congr h hsegs t'

/-! ## Reading an item -/

/-- No engine's name stands before the first equals sign. -/
def IsNameless (t : Text) : Prop :=
  ∀ name body, Text.splitFirst? '=' t = some (name, body) → isEngineName (Text.trim name) = false

theorem engineAndBody_cases (t : Text) :
    (∃ n b, Text.splitFirst? '=' t = some (n, b) ∧ isEngineName (Text.trim n) = true ∧
        engineAndBody t = (Text.trim n, Text.trim b)) ∨
      (IsNameless t ∧ engineAndBody t = impliedEngine t) := by
  unfold engineAndBody
  cases hsplit : Text.splitFirst? '=' t with
  | none =>
    refine .inr ⟨fun n b h => ?_, rfl⟩
    rw [hsplit] at h
    cases h
  | some cut =>
    obtain ⟨n, b⟩ := cut
    cases hname : isEngineName (Text.trim n) with
    | true => exact .inl ⟨n, b, rfl, hname, by simp [hname]⟩
    | false =>
      refine .inr ⟨fun n' b' h => ?_, by simp [hname]⟩
      obtain ⟨rfl, rfl⟩ := Prod.mk.inj (Option.some.inj (hsplit.symm.trans h))
      exact hname

theorem IsNameless.engineAndBody {t : Text} (h : IsNameless t) :
    engineAndBody t = impliedEngine t := by
  rcases engineAndBody_cases t with ⟨n, b, hsplit, hname, -⟩ | ⟨-, hsaid⟩
  · exact absurd hname (by simp [h n b hsplit])
  · exact hsaid

/-- The engine's name as it was written. -/
def Item.engineName (i : Item) : Text := if i.captured then '*' :: i.name else i.name

theorem dropStar_spec (t : Text) :
    (if (dropStar t).1 then '*' :: (dropStar t).2 else (dropStar t).2) = t ∧
      ((dropStar t).1 = false → ∀ r, (dropStar t).2 ≠ '*' :: r) := by
  unfold dropStar
  split
  · exact ⟨rfl, by simp⟩
  · rename_i hstar
    exact ⟨rfl, fun _ r h => hstar r h⟩

theorem item?_cases {g : Text} (h : item? g = some i) :
    (∃ n b, Text.trim g = n ++ '=' :: b ∧ isEngineName (Text.trim n) = true ∧
      i.engineName = Text.trim n ∧
        (i.captured = false → ∀ r, i.name ≠ '*' :: r) ∧ i.source = Text.trim b) ∨
      (Text.trim g ≠ [] ∧ IsNameless (Text.trim g) ∧
        i = ⟨false, (impliedEngine (Text.trim g)).1, Text.trim g⟩) := by
  unfold item? at h
  dsimp only at h
  split at h
  · cases h
  · rename_i hne
    obtain rfl := Option.some.inj h
    rcases engineAndBody_cases (Text.trim g) with ⟨n, b, hsplit, hname, hsaid⟩ | ⟨hnameless, hsaid⟩
    · obtain ⟨hg, -⟩ := Text.splitFirst?_eq_some hsplit
      obtain ⟨hengine, hstar⟩ := dropStar_spec (Text.trim n)
      rw [hsaid]
      exact .inl ⟨n, b, hg, hname, hengine, hstar, rfl⟩
    · refine .inr ⟨hne, hnameless, ?_⟩
      rw [hsaid]
      unfold impliedEngine
      split
      · rfl
      split
      · rfl
      · rfl

/-- What holds of all that a segment can say. -/
structure Item.IsRead (i : Item) : Prop where
  trimmed : Text.trim i.source = i.source
  engine : isEngineName i.engineName = true
  star : i.captured = false → ∀ r, i.name ≠ '*' :: r

theorem impliedEngine_isRead (t : Text) (h : Text.trim t = t) :
    Item.IsRead ⟨false, (impliedEngine t).1, t⟩ := by
  unfold impliedEngine
  split
  · exact ⟨h, rfl, by simp⟩
  split
  · exact ⟨h, rfl, by simp⟩
  · exact ⟨h, rfl, by simp⟩

theorem isRead_of_item? {g : Text} (h : item? g = some i) : i.IsRead := by
  rcases item?_cases h with ⟨n, b, -, hname, hengine, hstar, hsource⟩ | ⟨-, -, rfl⟩
  · exact ⟨by rw [hsource, Text.trim_trim], by rw [hengine, hname], hstar⟩
  · exact impliedEngine_isRead _ (Text.trim_trim g)

theorem engineName_inert {t : Text} (h : isEngineName (Text.trim t) = true) :
    ∀ c ∈ t, isInert c = true := by
  obtain ⟨a, z, ht, ha, hz⟩ := Text.exists_trim t
  intro c hc
  rw [ht, List.mem_append, List.mem_append] at hc
  rcases hc with hc | hc | hc
  · exact isBlank_inert (ha c hc)
  · exact (engineChar_facts h c hc).1
  · exact isBlank_inert (hz c hc)

theorem source_of_item? {g : Text} (h : item? g = some i) :
    ∃ a z, g = a ++ (i.source ++ z) ∧ (∀ c ∈ a, isInert c = true) ∧
      ∀ c ∈ z, Text.isBlank c = true := by
  obtain ⟨a, z, hg, ha, hz⟩ := Text.exists_trim g
  rcases item?_cases h with ⟨n, b, hpart, hname, -, -, hsource⟩ | ⟨-, -, rfl⟩
  · obtain ⟨a', z', hb, ha', hz'⟩ := Text.exists_trim b
    refine ⟨a ++ (n ++ '=' :: a'), z' ++ z, ?_, ?_, ?_⟩
    · rw [hsource]
      calc g = a ++ (Text.trim g ++ z) := hg
        _ = a ++ (n ++ '=' :: (a' ++ (Text.trim b ++ z')) ++ z) := by rw [hpart, ← hb]
        _ = a ++ (n ++ '=' :: a') ++ (Text.trim b ++ (z' ++ z)) := by simp
    · simp only [List.mem_append, List.mem_cons]
      rintro c (hc | hc | rfl | hc)
      · exact isBlank_inert (ha c hc)
      · exact engineName_inert hname c hc
      · rfl
      · exact isBlank_inert (ha' c hc)
    · exact List.forall_mem_append.mpr ⟨hz', hz⟩
  · exact ⟨a, z, hg, fun c hc => isBlank_inert (ha c hc), hz⟩

/-! ## Writing an item -/

/-- What is written for a part that says the item. -/
def Item.text (i : Item) : Text := partText i.captured (.plain i.name i.source)

theorem Item.text_cases (i : Item) :
    (i.captured = false ∧ isImplied (.plain i.name i.source) = true ∧ i.text = i.source) ∨
      ((i.captured = false → isImplied (.plain i.name i.source) = false) ∧
        i.text = i.engineName ++ '=' :: i.source) := by
  obtain ⟨captured, name, source⟩ := i
  unfold text partText engineName
  cases captured with
  | true => exact .inr ⟨by simp, rfl⟩
  | false =>
    cases himplied : isImplied (.plain name source) with
    | true => exact .inl ⟨rfl, rfl, rfl⟩
    | false => exact .inr ⟨fun _ => rfl, rfl⟩

/-- The text of a query by which it is told to be one. -/
structure IsQueryForm (source : Text) : Prop where
  nonempty : source ≠ []
  nameless : IsNameless source
  unquoted : isQuoted source = false
  noPath : isPath source = false

theorem isTrimmed_engineName {t : Text} (h : isEngineName t = true) : Text.IsTrimmed t := by
  refine Text.isTrimmed_of_forall ?_ fun c hc => (engineChar_facts h c hc).2.2
  rintro rfl
  simp [isEngineName] at h

theorem trim_named {a n : Text} (x : Text) (ha : ∀ c ∈ a, Text.isBlank c = true)
    (hname : isEngineName (Text.trim n) = true) :
    ∃ w y, Text.trim (a ++ (n ++ '=' :: x)) = (Text.trim n ++ w) ++ '=' :: y ∧
      (∀ c ∈ w, Text.isBlank c = true) ∧
      Text.trim y = Text.trim x := by
  obtain ⟨a', w, hn, ha', hw⟩ := Text.exists_trim n
  obtain ⟨y, z, rfl, hy, hz⟩ := Text.exists_trimEnd x
  have hpart : Text.IsTrimmed ((Text.trim n ++ w) ++ '=' :: y) := by
    obtain ⟨⟨c, r, hcr, hc⟩, -⟩ := isTrimmed_engineName hname
    refine ⟨⟨c, r ++ w ++ '=' :: y, by simp [hcr], hc⟩, ?_⟩
    rcases hy with rfl | ⟨u, d, rfl, hd⟩
    · exact ⟨_, '=', rfl, rfl⟩
    · exact ⟨(Text.trim n ++ w) ++ '=' :: u, d, by simp, hd⟩
  refine ⟨w, y, ?_, hw, ?_⟩
  · have hpadded := Text.trim_padded (a ++ a') _ z (List.forall_mem_append.mpr ⟨ha, ha'⟩) hz hpart
    rw [← hpadded]
    conv_lhs => rw [hn]
    simp
  · simpa using (Text.trim_pad [] y z (by simp) hz).symm

theorem item?_named {a n : Text} (x : Text) (ha : ∀ c ∈ a, Text.isBlank c = true)
    (hname : isEngineName (Text.trim n) = true) :
    item? (a ++ (n ++ '=' :: x)) =
      some ⟨(dropStar (Text.trim n)).1, (dropStar (Text.trim n)).2, Text.trim x⟩ := by
  obtain ⟨w, y, htrim, hw, hbody⟩ := trim_named x ha hname
  have hequals : '=' ∉ Text.trim n ++ w := by
    intro hmem
    rcases List.mem_append.mp hmem with hmem | hmem
    · exact (engineChar_facts hname _ hmem).2.1 rfl
    · exact absurd (hw _ hmem) (by decide)
  have hinner : Text.trim (Text.trim n ++ w) = Text.trim n := by
    have hpad := Text.trim_pad [] (Text.trim n) w (by simp) hw
    rwa [List.nil_append, Text.trim_trim] at hpad
  have hsaid : engineAndBody ((Text.trim n ++ w) ++ '=' :: y) = (Text.trim n, Text.trim x) := by
    rw [engineAndBody, Text.splitFirst?_append _ _ _ hequals]
    simp only [hinner, hname, hbody, if_true]
  rw [item?, htrim, if_neg (by simp), hsaid]

theorem item?_nameless {t : Text} (hne : t ≠ []) (htrim : Text.trim t = t)
    (hnameless : IsNameless t) :
    item? t = some ⟨false, (impliedEngine t).1, t⟩ := by
  rw [item?, htrim, if_neg hne, hnameless.engineAndBody]
  unfold impliedEngine
  split
  · rfl
  split
  · rfl
  · rfl

theorem isNameless_path {c : Char} {r : Text} (hc : c = '/' ∨ c = '.') : IsNameless (c :: r) := by
  intro n b hsplit
  obtain ⟨ht, -⟩ := Text.splitFirst?_eq_some hsplit
  have hmem : c ∈ Text.trim n := by
    cases n with
    | nil =>
      obtain ⟨rfl, -⟩ := List.cons.inj ht
      rcases hc with hc | hc <;> cases hc
    | cons d n =>
      obtain ⟨rfl, -⟩ := List.cons.inj ht
      exact Text.mem_trim List.mem_cons_self (by rcases hc with rfl | rfl <;> rfl)
  cases hname : isEngineName (Text.trim n) with
  | false => rfl
  | true =>
    have hchar := List.all_eq_true.mp (Bool.and_eq_true_iff.mp hname).2 c hmem
    rcases hc with rfl | rfl <;> exact absurd hchar (by decide)

theorem item?_path {t : Text} (htrim : Text.trim t = t)
    (h : (Text.dropStart? "//" t).isSome = true ∨ (Text.dropStart? ".." t).isSome = true) :
    item? t = some ⟨false, "xpath", t⟩ := by
  have hpath : isPath t = true ∧ ∃ c r, t = c :: r ∧ (c = '/' ∨ c = '.') := by
    rcases h with h | h
    · obtain ⟨r, hr⟩ := Option.isSome_iff_exists.mp h
      obtain rfl := Text.eq_append_of_dropStart? hr
      exact ⟨rfl, '/', '/' :: r, rfl, .inl rfl⟩
    · obtain ⟨r, hr⟩ := Option.isSome_iff_exists.mp h
      exact ⟨by rw [isPath, h, Bool.or_true], '.', '.' :: r, Text.eq_append_of_dropStart? hr,
        .inr rfl⟩
  obtain ⟨hpath, c, r, rfl, hc⟩ := hpath
  have hquoted : isQuoted (c :: r) = false := by
    rcases hc with rfl | rfl <;> simp [isQuoted]
  rw [item?_nameless (by simp) htrim (isNameless_path hc), impliedEngine, hquoted, hpath]
  rfl

theorem impliedEngine_query_iff {t : Text} :
    (impliedEngine t).1 = "css".toList ↔ isQuoted t = false ∧ isPath t = false := by
  unfold impliedEngine
  cases isQuoted t <;> cases isPath t <;> simp

theorem item?_query_iff {t : Text} (htrim : Text.trim t = t) :
    item? t = some ⟨false, "css", t⟩ ↔ IsQueryForm t := by
  constructor
  · intro h
    rcases item?_cases h with ⟨n, b, hpart, -, -, -, hsource⟩ | ⟨hne, hnameless, himplied⟩
    · -- the body behind a name is shorter than the text
      have hlen := congrArg List.length hpart
      have hbody := Text.length_trim_le b
      rw [← hsource] at hbody
      rw [htrim] at hlen
      simp only [List.length_append, List.length_cons] at hlen hbody
      omega
    · rw [htrim] at hne hnameless himplied
      obtain ⟨hunquoted, hnoPath⟩ := impliedEngine_query_iff.mp (Item.mk.inj himplied).2.1.symm
      exact ⟨hne, hnameless, hunquoted, hnoPath⟩
  · intro h
    rw [item?_nameless h.nonempty htrim h.nameless,
      impliedEngine_query_iff.mpr ⟨h.unquoted, h.noPath⟩]

theorem Item.IsRead.dropStar (h : i.IsRead) : dropStar i.engineName = (i.captured, i.name) := by
  obtain ⟨captured, name, source⟩ := i
  cases captured with
  | true => rfl
  | false =>
    rw [Chain.dropStar]
    · rfl
    · intro r hr
      exact h.star rfl r hr

/-- What is written for a part says the part again, but for a query whose form tells another
engine. -/
theorem Item.IsRead.item?_text_iff (h : i.IsRead) :
    item? i.text = some i ↔ (i.captured = false → i.name = "css" → IsQueryForm i.source) := by
  rcases i.text_cases with ⟨hcaptured, himplied, htext⟩ | ⟨himplied, htext⟩
  · obtain ⟨captured, name, source⟩ := i
    obtain rfl : captured = false := hcaptured
    rw [htext]
    simp only [isImplied, Part.name, Part.source, Bool.or_eq_true, Bool.and_eq_true, beq_iff_eq]
      at himplied
    rcases himplied with rfl | ⟨rfl, hpath⟩
    · simpa using item?_query_iff h.trimmed
    · simp [item?_path h.trimmed hpath]
  · have hsaid : item? i.text = some i := by
      have hname : Text.trim i.engineName = i.engineName :=
        Text.trim_trimmed _ (isTrimmed_engineName h.engine)
      have hnamed :=
        item?_named (a := []) (n := i.engineName) i.source (by simp) (by rw [hname, h.engine])
      rwa [hname, h.dropStar, h.trimmed, List.nil_append, ← htext] at hnamed
    refine ⟨fun _ hcaptured hname => ?_, fun _ => hsaid⟩
    have hnot := himplied hcaptured
    rw [hname] at hnot
    simp [isImplied, Part.name] at hnot

end Scenarist.Chain

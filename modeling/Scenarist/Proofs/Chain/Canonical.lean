import Scenarist.Proofs.Chain.Room

/-! # The text of a chain, read again

What is written for a chain that was read keeps the quotations of its bodies as they were, so it is
cut between the parts and nowhere else. It is read as the same chain exactly when each query is told
by its form to be one.
-/

namespace Scenarist.Chain

variable {i : Item} {g t : Text}

/-! ## Quotations of a body -/

theorem run_source (h : item? g = some i) {s : Scanner} (hrun : Scanner.start.run g = some s) :
    ∃ s', Scanner.start.run i.source = some s' ∧ s'.quote = s.quote := by
  obtain ⟨a, z, rfl, ha, hz⟩ := source_of_item? h
  rw [Scanner.run_append, Scanner.run_start_inert ha, Option.bind_some, Scanner.run_append] at hrun
  obtain ⟨s', hsource, hz'⟩ := Option.bind_eq_some_iff.mp hrun
  have hsound := Scanner.isSound_start.run hsource
  obtain ⟨s'', hblank, hquote, -⟩ := Scanner.run_inert hsound fun c hc => isBlank_inert (hz c hc)
  obtain rfl := Option.some.inj (hblank.symm.trans hz')
  exact ⟨s', hsource, hquote.symm⟩

theorem Item.IsRead.run_text (h : i.IsRead) :
    Scanner.start.run i.text = Scanner.start.run i.source := by
  rcases i.text_cases with ⟨-, -, htext⟩ | ⟨-, htext⟩
  · rw [htext]
  · have hname : Text.trim i.engineName = i.engineName :=
      Text.trim_trimmed _ (isTrimmed_engineName h.engine)
    have hinert : ∀ c ∈ i.engineName ++ ['='], isInert c = true := by
      simp only [List.mem_append, List.mem_singleton]
      rintro c (hc | rfl)
      · exact (engineChar_facts h.engine c hc).1
      · rfl
    have hsplit : i.text = (i.engineName ++ ['=']) ++ i.source := by simp [htext]
    rw [hsplit, Scanner.run_append, Scanner.run_start_inert hinert, Option.bind_some]

theorem standing_texts {gs : List Text} {is : List Item} (h : Standing gs)
    (hsaid : gs.map item? = is.map some) :
    Standing (is.map Item.text) := by
  induction h generalizing is with
  | last hrun =>
    cases is with
    | nil => cases hsaid
    | cons i is =>
      obtain ⟨hitem, hrest⟩ := List.cons.inj hsaid
      obtain rfl := List.map_eq_nil_iff.mp hrest.symm
      obtain ⟨s', hs', -⟩ := run_source hitem hrun
      exact .last ((isRead_of_item? hitem).run_text.trans hs')
  | cons hrun hclosed _ ih =>
    cases is with
    | nil => cases hsaid
    | cons i is =>
      obtain ⟨hitem, hrest⟩ := List.cons.inj hsaid
      obtain ⟨s', hs', hquote⟩ := run_source hitem hrun
      exact .cons ((isRead_of_item? hitem).run_text.trans hs') (hquote.trans hclosed) (ih hrest)

/-! ## Quotes that are ignored -/

theorem inert_text : ∀ c ∈ "text".toList, isInert c = true := List.all_eq_true.mp (by decide)

theorem item?_text {a w : Text} (x : Text) (ha : ∀ c ∈ a, Text.isBlank c = true)
    (hw : ∀ c ∈ w, Text.isBlank c = true) :
    item? (a ++ ("text" ++ (w ++ '=' :: x))) = some ⟨false, "text", Text.trim x⟩ := by
  have hname : Text.trim ("text" ++ w) = "text" := by
    have hpad := Text.trim_pad [] "text" w (by simp) hw
    rwa [List.nil_append] at hpad
  have hnamed := item?_named (n := "text" ++ w) x ha (by rw [hname]; rfl)
  rwa [hname, List.append_assoc] at hnamed

theorem item?_of_ignoresQuotes (h : ignoresQuotes g = true) :
    ∃ source, item? g = some ⟨false, "text", source⟩ ∧ ∀ c ∈ g, isQuote c = true → c ∈ source := by
  obtain ⟨a, w, x, rfl, ha, hw, -⟩ := ignoresQuotes_iff.mp h
  refine ⟨Text.trim x, item?_text x ha hw, ?_⟩
  intro c hc hquote
  have hnot : isInert c ≠ true := fun hinert => by simp [isQuote_inert hinert] at hquote
  have hblank : Text.isBlank c = false := by
    cases hcblank : Text.isBlank c with
    | false => rfl
    | true => exact absurd (isBlank_inert hcblank) hnot
  simp only [List.mem_append, List.mem_cons] at hc
  rcases hc with hc | hc | hc | rfl | hc
  · exact absurd (isBlank_inert (ha c hc)) hnot
  · exact absurd (inert_text c hc) hnot
  · exact absurd (isBlank_inert (hw c hc)) hnot
  · exact absurd rfl hnot
  · exact Text.mem_trim hc hblank

theorem isNeutral_of_item? (h : item? g = some i)
    (hquotes : i.captured = false → i.name = "text" → ∀ c ∈ i.source, isQuote c = false) :
      IsNeutral g := by
  intro hignores c hc
  obtain ⟨source, hitem, hmem⟩ := item?_of_ignoresQuotes hignores
  obtain rfl := Option.some.inj (h.symm.trans hitem)
  cases hquote : isQuote c with
  | false => rfl
  | true => rw [← hquote, hquotes rfl rfl c (hmem c hc hquote)]

theorem scan_of_ignoresQuotes (h : ignoresQuotes t = true) {before : Text}
    (hb : ∀ c ∈ before.reverse, Text.isBlank c = true) (r : Text) :
    ∃ g gs source, scan .start before (t ++ r) = g :: gs ∧
      item? g = some ⟨false, "text", source⟩ := by
  obtain ⟨a, w, x, rfl, ha, hw, -⟩ := ignoresQuotes_iff.mp h
  have hinert : ∀ c ∈ a ++ ("text" ++ (w ++ ['='])), isInert c = true := by
    simp only [List.mem_append, List.mem_singleton]
    rintro c (hc | hc | hc | rfl)
    · exact isBlank_inert (ha c hc)
    · exact inert_text c hc
    · exact isBlank_inert (hw c hc)
    · rfl
  -- up to its equals sign the text means nothing to the splitter, so that far no segment ends
  have hthrough := scan_through (Scanner.run_start_inert hinert) before (x ++ r)
    ((isNeutral_inert hinert).pad hb)
  obtain ⟨y, gs, hhead⟩ :=
    scan_head .start ((a ++ ("text" ++ (w ++ ['=']))).reverse ++ before) (x ++ r)
  have hfirst : settled .start ((a ++ ("text" ++ (w ++ ['=']))).reverse ++ before) ++ y =
      (before.reverse ++ a) ++ ("text" ++ (w ++ '=' :: y)) := by
    simp [settled, Scanner.start]
  have hblank := List.forall_mem_append.mpr ⟨hb, ha⟩
  refine ⟨_, gs, _, ?_, item?_text y hblank hw⟩
  rw [← hfirst, ← hhead, ← hthrough]
  simp

/-! ## The whole text -/

theorem join_cons (sep t : Text) (ts : List Text) : ∃ r, Text.join sep (t :: ts) = t ++ r := by
  cases ts with
  | nil => exact ⟨[], by simp [Text.join]⟩
  | cons u us => exact ⟨sep ++ Text.join sep (u :: us), Text.join_cons_cons sep t u us⟩

/-- Only a query can look like an old text selector with quotes when its engine is left out. -/
theorem query_of_not_neutral (hread : i.IsRead)
    (hquotes : i.captured = false → i.name = "text" → ∀ c ∈ i.source, isQuote c = false)
    (h : ¬IsNeutral i.text) :
    ignoresQuotes i.text = true ∧ item? i.text ≠ some i ∧ i.name = "css" := by
  have hbad : item? i.text ≠ some i := fun hitem => h (isNeutral_of_item? hitem hquotes)
  refine ⟨?_, hbad, ?_⟩
  · by_contra hheeds
    exact h fun hignores => absurd hignores hheeds
  · by_contra hname
    exact hbad (hread.item?_text_iff.mpr fun _ hcss => absurd hcss hname)

/-- The segments of the written parts say the parts exactly when each text does so by itself. -/
theorem scan_texts_iff {is : List Item} (hstanding : Standing (is.map Item.text))
    (hread : ∀ i ∈ is, i.IsRead)
    (hquotes : ∀ i ∈ is, i.captured = false → i.name = "text" → ∀ c ∈ i.source, isQuote c = false)
    (before : Text) (hb : ∀ c ∈ before.reverse, Text.isBlank c = true) :
    (scan .start before (Text.join " >> " (is.map Item.text))).map item? = is.map some ↔
      ∀ i ∈ is, item? i.text = some i := by
  induction is generalizing before with
  | nil => cases hstanding
  | cons i is ih =>
    by_cases hneutral : IsNeutral i.text
    · have hthrough {s : Scanner} (hrun : Scanner.start.run i.text = some s) (r : Text) :
          scan .start before (i.text ++ r) = scan s (i.text.reverse ++ before) r :=
        scan_through hrun before r (hneutral.pad hb)
      cases is with
      | nil =>
        cases hstanding with
        | last hrun =>
          have hscan := hthrough hrun []
          have hitem := item?_pad (z := []) i.text hb (by simp)
          rw [List.append_nil] at hscan hitem
          simp [Text.join, hscan, scan, hitem]
        | cons hrun hclosed hts => cases hts
      | cons j js =>
        cases hstanding with
        | cons hrun hclosed hts =>
          have hblank : ∀ c ∈ [' '], Text.isBlank c = true := by simp [Text.isBlank]
          have hrest := ih hts (fun k hk => hread k (List.mem_cons_of_mem _ hk))
            (fun k hk => hquotes k (List.mem_cons_of_mem _ hk)) [' '] hblank
          have hscan := hthrough hrun (" >> " ++ Text.join " >> " ((j :: js).map Item.text))
          rw [scan_separator hclosed, List.reverse_append, List.reverse_reverse, List.append_assoc]
            at hscan
          have hitem := item?_pad (z := [' ']) i.text hb hblank
          have hjoin := Text.join_cons_cons " >> " i.text j.text (js.map Item.text)
          rw [← List.map_cons] at hjoin
          have htexts : (i :: j :: js).map Item.text = i.text :: (j :: js).map Item.text := rfl
          have hsome : (i :: j :: js).map some = some i :: (j :: js).map some := rfl
          rw [htexts, hjoin, hscan, List.map_cons, hitem, hsome, List.cons.injEq, hrest]
          exact (List.forall_mem_cons (p := fun k => item? k.text = some k)).symm
    · obtain ⟨hignores, hbad, hname⟩ :=
        query_of_not_neutral (hread i List.mem_cons_self) (hquotes i List.mem_cons_self) hneutral
      obtain ⟨r, hr⟩ := join_cons " >> " i.text (is.map Item.text)
      obtain ⟨g, gs, source, hscan, hitem⟩ := scan_of_ignoresQuotes hignores hb r
      constructor
      · intro hsaid
        rw [List.map_cons, hr, hscan, List.map_cons, hitem] at hsaid
        obtain rfl := Option.some.inj (List.cons.inj hsaid).1
        have hne : ("text" : Text) ≠ "css" := by decide
        exact absurd hname hne
      · exact fun hall => absurd (hall i List.mem_cons_self) hbad

/-! ## The chain -/

theorem partTexts_eq (capture : Option Nat) (index : Nat) (ps : List Part) :
    partTexts capture index ps = ps.mapIdx fun n p => partText (capture == some (index + n)) p := by
  induction ps generalizing index with
  | nil => rfl
  | cons p ps ih =>
    rw [partTexts, List.mapIdx_cons, ih]
    simp [Nat.add_assoc, Nat.add_comm 1]

theorem toText_eq (c : Chain) : c.toText = Text.join " >> " (c.outline.items.map Item.text) := by
  have htext : partTexts c.capture 0 c.parts = c.outline.items.map Item.text := by
    rw [partTexts_eq]
    refine List.ext_getElem (by simp [outline, Split.items]) fun n hn _ => ?_
    simp only [outline, Split.items, List.getElem_map, List.getElem_mapIdx, Nat.zero_add]
    rfl
  rw [toText, htext]

/-- The part stands in the chain, and not as the captured one. -/
def IsFree (c : Chain) (p : Part) : Prop := ∃ n, c.parts[n]? = some p ∧ c.capture ≠ some n

theorem free_of_mem {c : Chain} (h : i ∈ c.outline.items) (hfree : i.captured = false) :
    ∃ p, c.IsFree p ∧ p.name = i.name ∧ p.source = i.source := by
  obtain ⟨n, hn, rfl⟩ := List.mem_mapIdx.mp h
  rw [outline, List.length_map] at hn
  refine ⟨c.parts[n], ⟨n, List.getElem?_eq_getElem hn, ?_⟩, ?_, ?_⟩
  · simpa [outline] using hfree
  · simp [outline]
  · simp [outline]

theorem mem_of_free {c : Chain} {p : Part} (h : c.IsFree p) :
    (⟨false, p.name, p.source⟩ : Item) ∈ c.outline.items := by
  obtain ⟨n, hp, hn⟩ := h
  obtain ⟨hlt, rfl⟩ := List.getElem?_eq_some_iff.mp hp
  refine List.mem_mapIdx.mpr ⟨n, by simpa [outline] using hlt, ?_⟩
  simpa [outline] using hn

/-- The text of a chain that was read, with no quotes in its old text selectors, is read as the same
chain exactly when the form of each query that is not captured tells that it is a query. -/
theorem read_toText_iff {c : Chain} (hread : Chain.read t = .ok c)
    (hquotes : ∀ p, c.IsFree p → p.name = "text" → ∀ d ∈ p.source, isQuote d = false) :
    Chain.read c.toText = .ok c ↔ ∀ p, c.IsFree p → p.name = "css" → IsQueryForm p.source := by
  have hsplit := split_of_read hread
  have hsaid := split_items hsplit
  have hitems : ∀ i ∈ c.outline.items, i.IsRead := by
    intro i hi
    obtain ⟨g, -, hgi⟩ := segment_of_mem hsaid hi
    exact isRead_of_item? hgi
  have hunquoted : ∀ i ∈ c.outline.items, i.captured = false → i.name = "text" →
      ∀ d ∈ i.source, isQuote d = false := by
    intro i hi hcaptured hname
    obtain ⟨p, hp, hpname, hpsource⟩ := free_of_mem hi hcaptured
    rw [← hpsource]
    exact hquotes p hp (hpname.trans hname)
  have hneutral : ∀ g ∈ scan .start [] t, IsNeutral g := by
    intro g hg
    obtain ⟨i, hi, hgi⟩ := item_of_mem hsaid hg
    exact isNeutral_of_item? hgi (hunquoted i hi)
  have hstanding := standing_texts (scan_standing rfl hneutral) hsaid
  calc Chain.read c.toText = .ok c
    _ ↔ split c.toText = .ok c.outline := read_eq_ok_iff hread
    _ ↔ (scan .start [] c.toText).map item? = c.outline.items.map some := split_eq_ok_iff hsplit
    _ ↔ ∀ i ∈ c.outline.items, item? i.text = some i := by
      rw [toText_eq]
      exact scan_texts_iff hstanding hitems hunquoted [] (by simp)
    _ ↔ ∀ i ∈ c.outline.items, i.captured = false → i.name = "css" → IsQueryForm i.source :=
      forall₂_congr fun i hi => (hitems i hi).item?_text_iff
    _ ↔ ∀ p, c.IsFree p → p.name = "css" → IsQueryForm p.source := by
      constructor
      · exact fun h p hp => h _ (mem_of_free hp) rfl
      · intro h i hi hcaptured
        obtain ⟨p, hp, hname, hsource⟩ := free_of_mem hi hcaptured
        rw [← hname, ← hsource]
        exact h p hp

/-- The item of a list that holds a text and a link. -/
theorem read_toText_list_item :
    let t : Text := "css = ul >> *css=li >> internal:has=\"a[href='>>']\" >> text = Buy"
    let link : Chain := ⟨[.plain "css" "a[href='>>']"], none⟩
    let c : Chain :=
      ⟨[.plain "css" "ul", .plain "css" "li", .nested "internal:has" "\"a[href='>>']\"" link none,
      .plain "text" "Buy"], some 1⟩
    Chain.read t = .ok c ∧ c.toText = "ul >> *css=li >> internal:has=\"a[href='>>']\" >> text=Buy" ∧
      Chain.read c.toText = .ok c := by
  intro t link c
  have hread : Chain.read t = .ok c := by rfl
  have hparts : ∀ p, c.IsFree p → p ∈ c.parts := by
    rintro p ⟨n, hp, -⟩
    exact List.mem_of_getElem? hp
  simp only [c, List.mem_cons, List.not_mem_nil, or_false] at hparts
  have hquotes : ∀ p, c.IsFree p → p.name = "text" → ∀ d ∈ p.source, isQuote d = false := by
    intro p hp hname
    rcases hparts p hp with rfl | rfl | rfl | rfl
    · exact absurd hname (by decide)
    · exact absurd hname (by decide)
    · exact absurd hname (by decide)
    · have hall : "Buy".toList.all (fun d => !isQuote d) = true := by decide
      intro d hd
      simpa using List.all_eq_true.mp hall d hd
  have hqueries : ∀ p, c.IsFree p → p.name = "css" → IsQueryForm p.source := by
    intro p hp hname
    rcases hparts p hp with rfl | rfl | rfl | rfl
    · exact ⟨by decide, (fun n b h => by cases h), rfl, rfl⟩
    · exact ⟨by decide, (fun n b h => by cases h), rfl, rfl⟩
    · exact absurd hname (by decide)
    · exact absurd hname (by decide)
  exact ⟨hread, rfl, (read_toText_iff hread hquotes).mpr hqueries⟩

end Scenarist.Chain

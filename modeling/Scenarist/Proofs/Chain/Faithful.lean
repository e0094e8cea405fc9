import Scenarist.Proofs.Chain.Appended
import Scenarist.Proofs.Chain.Canonical

/-! # The text of any chain, read again

In an old text selector that is written again quotes may count that did not before, or no longer
count. The text of a chain is read as the same chain exactly when each query is told by its form to
be one, and each old text selector stays one segment and closes what it opens.
-/

namespace Scenarist.Chain

/-! ## All of a list, and its last -/

section

variable {α : Type}

/-- It holds of each, where the last is told that it is the last. -/
inductive ForallLast (P : Bool → α → Prop) : List α → Prop where
  | last {a : α} (h : P true a) : ForallLast P [a]
  | cons {a : α} {as : List α} (h : P false a) (hs : ForallLast P as) : ForallLast P (a :: as)

variable {P : Bool → α → Prop} {a : α} {as : List α}

theorem ForallLast.ne_nil (h : ForallLast P as) : as ≠ [] := by
  cases h <;> simp

theorem forallLast_singleton : ForallLast P [a] ↔ P true a := by
  refine ⟨fun h => ?_, .last⟩
  cases h with
  | last h => exact h
  | cons _ hs => exact absurd rfl hs.ne_nil

theorem forallLast_cons (hne : as ≠ []) : ForallLast P (a :: as) ↔ P false a ∧ ForallLast P as := by
  refine ⟨fun h => ?_, fun h => .cons h.1 h.2⟩
  cases h with
  | last _ => exact absurd rfl hne
  | cons h hs => exact ⟨h, hs⟩

theorem forallLast_iff (hne : as ≠ []) :
    ForallLast P as ↔ ∀ n a, as[n]? = some a → P (n + 1 == as.length) a := by
  induction as with
  | nil => exact absurd rfl hne
  | cons b as ih =>
    cases as with
    | nil =>
      rw [forallLast_singleton]
      constructor
      · intro h n a hn
        cases n with
        | zero =>
          obtain rfl := Option.some.inj hn
          exact h
        | succ n => cases hn
      · exact fun h => h 0 b rfl
    | cons c as =>
      rw [forallLast_cons (by simp), ih (by simp)]
      constructor
      · rintro ⟨hfirst, hrest⟩ n a hn
        cases n with
        | zero =>
          obtain rfl := Option.some.inj hn
          simpa using hfirst
        | succ n => simpa using hrest n a hn
      · intro h
        refine ⟨by simpa using h 0 b rfl, fun n a hn => ?_⟩
        simpa using h (n + 1) a hn

end

/-! ## Texts that stay whole -/

/-- The text is one segment, and if it is not the last it closes the quotation that it opens. -/
def Stands (last : Bool) (t : Text) : Prop :=
  scan .start [] t = [t] ∧ (last = false → (finish .start [] t).quote = none)

/-- The text that was taken so far leads into this state without a cut. -/
def Reaches (s : Scanner) (before : Text) : Prop :=
  ∀ r, scan .start [] (before.reverse ++ r) = scan s before r ∧
    finish .start [] (before.reverse ++ r) = finish s before r

theorem Reaches.start : Reaches .start [] := fun _ => ⟨rfl, rfl⟩

theorem Reaches.next {s s' : Scanner} {before : Text} {c : Char} (h : Reaches s before)
    (hnext : s.next (ignoresQuotes before.reverse) c = some s') : Reaches s' (c :: before) := by
  intro r
  have hr := h (c :: r)
  rw [scan_next hnext, finish_next hnext] at hr
  simpa using hr

theorem scan_stands {s : Scanner} {before t : Text} (h : Reaches s before)
    (hbracket : s.pending = .bracket → ∃ b, before = '>' :: b ∧ Reaches .start b) :
    ForallLast Stands (scan s before t) := by
  induction t generalizing s before with
  | nil =>
    have hend := (h []).1
    rw [List.append_nil] at hend
    exact .last ⟨hend, fun h => absurd h (by decide)⟩
  | cons c t ih =>
    cases hnext : s.next (ignoresQuotes before.reverse) c with
    | none =>
      obtain ⟨rfl, rfl⟩ := Scanner.next_eq_none hnext
      obtain ⟨b, rfl, hb⟩ := hbracket rfl
      obtain ⟨hscan, hfinish⟩ := hb []
      rw [List.append_nil] at hscan hfinish
      rw [scan_cut hnext]
      have hrest := ih .start fun h => absurd h Scanner.start_pending
      exact .cons ⟨hscan, fun _ => congrArg Scanner.quote hfinish⟩ hrest
    | some s' =>
      rw [scan_next hnext]
      refine ih (h.next hnext) fun hpending => ?_
      rcases Scanner.next_cases hnext with ⟨-, hne⟩ | ⟨rfl, rfl, -⟩ | rfl | ⟨-, rfl⟩
      · exact absurd hpending hne
      · exact ⟨before, rfl, h⟩
      · cases hpending
      · cases hpending

theorem join_scan (s : Scanner) (before t : Text)
    (hbracket : s.pending = .bracket → ∃ b, before = '>' :: b) :
    Text.join ">>" (scan s before t) = before.reverse ++ t := by
  induction t generalizing s before with
  | nil => simp [scan, Text.join]
  | cons c t ih =>
    cases hnext : s.next (ignoresQuotes before.reverse) c with
    | none =>
      obtain ⟨rfl, rfl⟩ := Scanner.next_eq_none hnext
      obtain ⟨b, rfl⟩ := hbracket rfl
      have hrest := ih .start [] fun h => absurd h Scanner.start_pending
      obtain ⟨x, gs, hhead⟩ := scan_head .start [] t
      rw [scan_cut hnext, hhead, Text.join_cons_cons, ← hhead, hrest]
      simp
    | some s' =>
      rw [scan_next hnext, ih]
      · simp
      · intro hpending
        rcases Scanner.next_cases hnext with ⟨-, hne⟩ | ⟨-, rfl, -⟩ | rfl | ⟨-, rfl⟩
        · exact absurd hpending hne
        · exact ⟨before, rfl⟩
        · cases hpending
        · cases hpending

/-! ## Neutral texts -/

theorem finish_through {t : Text} {s s' : Scanner} (h : s.run t = some s') (before : Text)
    (hneutral : IsNeutral (before.reverse ++ t)) : finish s before t = s' := by
  induction t generalizing s before with
  | nil => exact Option.some.inj h
  | cons c t ih =>
    obtain ⟨s₁, hstep, hrun⟩ := Option.bind_eq_some_iff.mp h
    have hnext : s.next (ignoresQuotes before.reverse) c = some s₁ := by
      rw [hneutral.next_eq, hstep]
    rw [finish_next hnext, ih hrun (c :: before) (by simpa using hneutral)]

theorem run_of_scan {t : Text} {s : Scanner} (before : Text) {g : Text} (h : scan s before t = [g])
    (hneutral : IsNeutral (before.reverse ++ t)) : s.run t = some (finish s before t) := by
  induction t generalizing s before with
  | nil => rfl
  | cons c t ih =>
    cases hnext : s.next (ignoresQuotes before.reverse) c with
    | none =>
      rw [scan_cut hnext] at h
      obtain ⟨x, gs, hhead⟩ := scan_head .start [] t
      rw [hhead] at h
      cases h
    | some s' =>
      have hstep : s.step c = some s' := by rw [← hneutral.next_eq, hnext]
      rw [scan_next hnext] at h
      rw [Scanner.run_cons, hstep, Option.bind_some, finish_next hnext]
      exact ih (c :: before) h (by simpa using hneutral)

theorem stands_iff {last : Bool} {t : Text} (hneutral : IsNeutral t) :
    Stands last t ↔ ∃ s, Scanner.start.run t = some s ∧ (last = false → s.quote = none) := by
  constructor
  · rintro ⟨hscan, hclosed⟩
    exact ⟨_, run_of_scan [] hscan hneutral, hclosed⟩
  · rintro ⟨s, hrun, hclosed⟩
    have hscan := scan_through hrun [] [] hneutral
    have hfinish := finish_through hrun [] hneutral
    rw [List.append_nil, List.append_nil] at hscan
    refine ⟨by simpa [scan] using hscan, fun hlast => ?_⟩
    rw [hfinish, hclosed hlast]

/-! ## Items -/

/-- A segment that stands says the item. -/
def Arises (last : Bool) (i : Item) : Prop := ∃ g, Stands last g ∧ item? g = some i

/-- What is written for the item says it again and stays one segment. -/
def Recurs (last : Bool) (i : Item) : Prop := item? i.text = some i ∧ Stands last i.text

variable {last : Bool} {i : Item} {is : List Item} {t : Text}

theorem forallLast_arises {gs : List Text} (h : ForallLast Stands gs)
    (hsaid : gs.map item? = is.map some) :
    ForallLast Arises is := by
  induction h generalizing is with
  | last hg =>
    cases is with
    | nil => cases hsaid
    | cons i is =>
      obtain ⟨hitem, hrest⟩ := List.cons.inj hsaid
      obtain rfl := List.map_eq_nil_iff.mp hrest.symm
      exact .last ⟨_, hg, hitem⟩
  | cons hg _ ih =>
    cases is with
    | nil => cases hsaid
    | cons i is =>
      obtain ⟨hitem, hrest⟩ := List.cons.inj hsaid
      exact .cons ⟨_, hg, hitem⟩ (ih hrest)

theorem Arises.stands (h : Arises last i) (hother : i.captured = false → i.name ≠ "text")
    (hneutral : IsNeutral i.text) :
    Stands last i.text := by
  obtain ⟨g, hg, hitem⟩ := h
  have hsegment : IsNeutral g :=
    isNeutral_of_item? hitem fun hcaptured hname => absurd hname (hother hcaptured)
  obtain ⟨s, hrun, hclosed⟩ := (stands_iff hsegment).mp hg
  obtain ⟨s', hsource, hquote⟩ := run_source hitem hrun
  refine (stands_iff hneutral).mpr
    ⟨s', (isRead_of_item? hitem).run_text.trans hsource, fun hlast => ?_⟩
  rw [hquote, hclosed hlast]

/-! ## Old text selectors -/

theorem scan_text (x : Text) :
    ∃ y gs, scan .start [] ("text=".toList ++ x) = ("text=".toList ++ y) :: gs := by
  have hinert : ∀ c ∈ "text=".toList, isInert c = true := List.all_eq_true.mp (by decide)
  have hthrough := scan_through (Scanner.run_start_inert hinert) [] x (isNeutral_inert hinert)
  obtain ⟨y, gs, hhead⟩ := scan_head .start ("text=".toList.reverse ++ []) x
  refine ⟨y, gs, ?_⟩
  rw [hthrough, hhead]
  simp [settled, Scanner.start]

theorem scan_quoted {s : Scanner} {q : Char} (hs : s.quote = some q) (hq : isQuote q = true)
    (before r : Text) :
    ∃ x gs, scan s before (" >> ".toList ++ r) =
      (before.reverse ++ (" >> ".toList ++ x)) :: gs := by
  have hne : ∀ d, isQuote d = false → q ≠ d := by
    rintro d hd rfl
    simp [hd] at hq
  obtain ⟨quote, pending⟩ := s
  obtain rfl : quote = some q := hs
  have hblank : ' ' ≠ '\\' ∧ '>' ≠ '\\' := by decide
  have hscan : scan ⟨some q, pending⟩ before (" >> ".toList ++ r) =
      scan ⟨some q, .nothing⟩ (" >> ".toList.reverse ++ before) r := by
    cases pending <;> simp [scan, Scanner.next, hne ' ' rfl, hne '>' rfl]
  obtain ⟨x, gs, hhead⟩ := scan_head ⟨some q, .nothing⟩ (" >> ".toList.reverse ++ before) r
  refine ⟨x, gs, ?_⟩
  rw [hscan, hhead]
  simp [settled]

theorem finish_isSound {s : Scanner} (hs : s.IsSound) (before t : Text) :
    (finish s before t).IsSound := by
  induction t generalizing s before with
  | nil => exact hs
  | cons c t ih =>
    cases hnext : s.next (ignoresQuotes before.reverse) c with
    | none =>
      rw [finish_cut hnext]
      exact ih Scanner.isSound_start []
    | some s' =>
      rw [finish_next hnext]
      exact ih (hs.next hnext) (c :: before)

theorem head_of_not_stands {source : Text} (hnot : ¬Stands last ("text=".toList ++ source))
    {rest : Text}
    (hrest : last = false → ∃ r, rest = " >> ".toList ++ r) :
    ∃ x gs, scan .start [] ("text=".toList ++ source ++ rest) = ("text=".toList ++ x) :: gs ∧
      Text.trim x ≠ source := by
  obtain ⟨gs, g, hscan, happend⟩ := scan_append .start [] ("text=".toList ++ source)
  have hjoined :=
    join_scan .start [] ("text=".toList ++ source) fun h => absurd h Scanner.start_pending
  obtain ⟨y, ks, htext⟩ := scan_text source
  cases gs with
  | nil =>
    -- it is not cut, so it leaves a quotation open, in which the brackets behind it stand
    rw [hscan] at hjoined
    obtain rfl : g = "text=".toList ++ source := hjoined
    have hopen : ¬(last = false → (finish .start [] ("text=".toList ++ source)).quote = none) :=
      fun hclosed => hnot ⟨hscan, hclosed⟩
    obtain ⟨hlast, hquote⟩ := Classical.not_imp.mp hopen
    obtain ⟨q, hq⟩ := Option.ne_none_iff_exists'.mp hquote
    obtain ⟨r, rfl⟩ := hrest hlast
    have hsound := finish_isSound Scanner.isSound_start [] ("text=".toList ++ source) q hq
    obtain ⟨x, hs, hhead⟩ := scan_quoted hq hsound ("text=".toList ++ source).reverse r
    refine ⟨source ++ (" >> ".toList ++ x), hs, ?_, ?_⟩
    · rw [happend, hhead]
      simp
    · intro htrim
      have hcount := Text.count_trim (c := '>') rfl (source ++ (" >> ".toList ++ x))
      rw [htrim] at hcount
      simp [List.count_append] at hcount
  | cons h gs =>
    -- it is cut, so the brackets are missing from its first segment
    obtain ⟨rfl, -⟩ := List.cons.inj (htext.symm.trans hscan)
    obtain ⟨k, ks', hrest⟩ :=
      List.exists_cons_of_ne_nil (List.append_ne_nil_of_right_ne_nil gs (by simp : [g] ≠ []))
    rw [hscan, List.cons_append, hrest, Text.join_cons_cons] at hjoined
    have hsource : source = y ++ (">>".toList ++ Text.join ">>" (k :: ks')) := by
      simpa using hjoined.symm
    refine ⟨y, gs ++ scan (finish .start [] ("text=".toList ++ source)) g.reverse rest,
      happend rest, ?_⟩
    intro htrim
    have hcount := Text.count_trim (c := '>') rfl y
    rw [htrim, hsource] at hcount
    simp [List.count_append] at hcount

/-! ## The written items -/

theorem Arises.stands_of_said (h : Arises last i) (rest : Text)
    (hrest : last = false → ∃ r, rest = " >> ".toList ++ r)
    {more : List (Option Item)}
    (hsaid : (scan .start [] (i.text ++ rest)).map item? = some i :: more) :
    Stands last i.text := by
  by_contra hnot
  by_cases htext : i.captured = false ∧ i.name = "text"
  · obtain ⟨captured, name, source⟩ := i
    obtain ⟨rfl, rfl⟩ := htext
    obtain ⟨x, gs, hscan, hne⟩ := head_of_not_stands hnot hrest
    have hitem : item? ("text=".toList ++ x) = some ⟨false, "text", Text.trim x⟩ :=
      item?_text (a := []) (w := []) x (by simp) (by simp)
    have hwritten : Item.text ⟨false, "text", source⟩ = "text=".toList ++ source := rfl
    rw [hwritten, hscan, List.map_cons, hitem] at hsaid
    exact hne (Item.mk.inj (Option.some.inj (List.cons.inj hsaid).1)).2.2
  · have hother : i.captured = false → i.name ≠ "text" :=
      fun hcaptured hname => htext ⟨hcaptured, hname⟩
    have hlooks : ¬IsNeutral i.text := fun hneutral => hnot (h.stands hother hneutral)
    obtain ⟨g, -, hitem⟩ := h
    obtain ⟨hignores, -, hname⟩ := query_of_not_neutral (isRead_of_item? hitem)
      (fun hcaptured htext => absurd htext (hother hcaptured)) hlooks
    have hempty : ∀ c ∈ ([] : Text).reverse, Text.isBlank c = true := by simp
    obtain ⟨k, gs, source, hscan, hfirst⟩ := scan_of_ignoresQuotes hignores hempty rest
    rw [hscan, List.map_cons, hfirst] at hsaid
    obtain rfl := Option.some.inj (List.cons.inj hsaid).1
    have hne : ("text" : Text) ≠ "css" := by decide
    exact hne hname

/-- The written items are said again just if each of them recurs. -/
theorem said_again_iff (h : ForallLast Arises is) :
    (scan .start [] (Text.join " >> " (is.map Item.text))).map item? = is.map some ↔
      ForallLast Recurs is := by
  induction h with
  | @last i hi =>
    rw [forallLast_singleton, List.map_singleton, List.map_singleton, Text.join]
    constructor
    · intro hsaid
      have hstands : Stands true i.text :=
        hi.stands_of_said [] (fun h => absurd h (by decide)) (by rwa [List.append_nil])
      rw [hstands.1] at hsaid
      exact ⟨(List.cons.inj hsaid).1, hstands⟩
    · rintro ⟨hitem, hscan, -⟩
      rw [hscan, List.map_singleton, hitem]
  | @cons i js hi hjs ih =>
    obtain ⟨j, js, rfl⟩ := List.exists_cons_of_ne_nil hjs.ne_nil
    rw [forallLast_cons hjs.ne_nil, ← ih]
    have hjoin : Text.join " >> " ((i :: j :: js).map Item.text) =
        i.text ++ (" >> ".toList ++ Text.join " >> " ((j :: js).map Item.text)) :=
      Text.join_cons_cons " >> " i.text j.text (js.map Item.text)
    rw [hjoin]
    change _ = some i :: (j :: js).map some ↔ _
    have hsplit (hstands : Stands false i.text) :
        (scan .start []
          (i.text ++ (" >> ".toList ++ Text.join " >> " ((j :: js).map Item.text)))).map item? =
          item? i.text ::
            (scan .start [] (Text.join " >> " ((j :: js).map Item.text))).map item? := by
      rw [items_appended (hstands.2 rfl), hstands.1]
      rfl
    constructor
    · intro hsaid
      have hstands : Stands false i.text := hi.stands_of_said _ (fun _ => ⟨_, rfl⟩) hsaid
      rw [hsplit hstands] at hsaid
      obtain ⟨hitem, hrest⟩ := List.cons.inj hsaid
      exact ⟨⟨hitem, hstands⟩, hrest⟩
    · rintro ⟨⟨hitem, hstands⟩, hrest⟩
      rw [hsplit hstands, hitem, hrest]

/-! ## The chain -/

/-- The form of each query that is not captured tells that it is one, and each old text selector
that is not captured stands, written again. -/
structure IsFaithful (c : Chain) : Prop where
  queries : ∀ p, c.IsFree p → p.name = "css" → IsQueryForm p.source
  texts : ∀ n (p : Part), c.parts[n]? = some p → c.capture ≠ some n → p.name = "text" →
    Stands (n + 1 == c.parts.length) ("text=".toList ++ p.source)

theorem getElem?_items (c : Chain) (n : Nat) :
    c.outline.items[n]? = c.parts[n]?.map fun p => ⟨c.capture == some n, p.name, p.source⟩ := by
  simp [outline, Split.items, Function.comp_def]

theorem isFaithful_iff {c : Chain} (h : ForallLast Arises c.outline.items) :
    c.IsFaithful ↔ ForallLast Recurs c.outline.items := by
  have harises := (forallLast_iff h.ne_nil).mp h
  have hlength : c.outline.items.length = c.parts.length := by simp [outline, Split.items]
  have hread {n : Nat} {i : Item} (hi : c.outline.items[n]? = some i) : i.IsRead := by
    obtain ⟨g, -, hitem⟩ := harises n i hi
    exact isRead_of_item? hitem
  have hplace {n : Nat} {p : Part} (hp : c.parts[n]? = some p) (hn : c.capture ≠ some n) :
      c.outline.items[n]? = some ⟨false, p.name, p.source⟩ := by
    rw [getElem?_items, hp]
    simpa using hn
  rw [forallLast_iff h.ne_nil]
  constructor
  · intro hfaithful n i hi
    have hplaced := getElem?_items c n
    rw [hi] at hplaced
    obtain ⟨p, hp, rfl⟩ := Option.map_eq_some_iff.mp hplaced.symm
    have hsaid := (hread hi).item?_text_iff.mpr fun hcaptured hname =>
      hfaithful.queries p ⟨n, hp, by simpa using hcaptured⟩ hname
    refine ⟨hsaid, ?_⟩
    by_cases htext : (c.capture == some n) = false ∧ p.name = "text"
    · have hstands := hfaithful.texts n p hp (by simpa using htext.1) htext.2
      rw [htext.1, htext.2, hlength]
      exact hstands
    · have hother : (c.capture == some n) = false → p.name ≠ "text" :=
        fun hcaptured hname => htext ⟨hcaptured, hname⟩
      exact (harises n _ hi).stands hother
        (isNeutral_of_item? hsaid fun hcaptured hname => absurd hname (hother hcaptured))
  · intro hrecurs
    constructor
    · rintro p ⟨n, hp, hn⟩ hname
      have hi := hplace hp hn
      exact (hread hi).item?_text_iff.mp (hrecurs n _ hi).1 rfl hname
    · intro n p hp hn hname
      have hi := hplace hp hn
      rw [hname] at hi
      rw [← hlength]
      exact (hrecurs n _ hi).2

/-- The text of a chain that was read is read as the same chain just if the chain is faithful. -/
theorem read_toText_eq_iff {c : Chain} (hread : Chain.read t = .ok c) :
    Chain.read c.toText = .ok c ↔ c.IsFaithful := by
  have hsplit := split_of_read hread
  have hstands : ForallLast Stands (scan .start [] t) :=
    scan_stands .start fun h => absurd h Scanner.start_pending
  have harises := forallLast_arises hstands (split_items hsplit)
  calc Chain.read c.toText = .ok c
    _ ↔ split c.toText = .ok c.outline := read_eq_ok_iff hread
    _ ↔ (scan .start [] c.toText).map item? = c.outline.items.map some := split_eq_ok_iff hsplit
    _ ↔ ForallLast Recurs c.outline.items := by rw [toText_eq, said_again_iff harises]
    _ ↔ c.IsFaithful := (isFaithful_iff harises).symm

end Scenarist.Chain

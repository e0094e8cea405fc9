import Scenarist.Chain.Split
import Scenarist.Proofs.Text.Trim

/-! # Splitting character by character

The splitter looks at two characters at once. As a machine that keeps in mind what the last one left
open it looks at one, and what it does in a text follows from what it does in the pieces of it.
-/

namespace Scenarist.Chain

/-- The character means nothing to the splitter. -/
def isInert (c : Char) : Bool := c != '\\' && c != '>' && !isQuote c

/-! ## The machine -/

/-- What the last character is waiting for. -/
inductive Pending where
  | nothing
  /-- A backslash takes away the meaning of the next character. -/
  | backslash
  /-- An angle bracket outside of quotations cuts with a second one. -/
  | bracket
deriving DecidableEq

structure Scanner where
  /-- The mark of the quotation that is open. -/
  quote : Option Char
  pending : Pending
deriving DecidableEq

namespace Scanner

def start : Scanner := ⟨none, .nothing⟩

/-- Takes one character, or cuts. -/
def next (s : Scanner) (ignoring : Bool) (c : Char) : Option Scanner :=
  if s.pending = .backslash then some ⟨s.quote, .nothing⟩
  else if c = '\\' then some ⟨s.quote, .backslash⟩
  else if c = '>' ∧ s.quote = none then
    if s.pending = .bracket then none else some ⟨none, .bracket⟩
  else if s.quote = some c then some ⟨none, .nothing⟩
  else if s.quote = none ∧ isQuote c ∧ !ignoring then some ⟨some c, .nothing⟩
  else some ⟨s.quote, .nothing⟩

/-- A step where all quotes count. -/
def step (s : Scanner) (c : Char) : Option Scanner := s.next false c

/-- What is open behind a text without a cut. -/
def run (s : Scanner) (t : Text) : Option Scanner := t.foldlM step s

/-- Only quotation marks open quotations. -/
def IsSound (s : Scanner) : Prop := ∀ c ∈ s.quote, isQuote c = true

end Scanner

/-- The segments of a text, by the machine. `before` holds the characters of the current segment,
the latest first. -/
def scan (s : Scanner) (before : Text) : Text → List Text
  | [] => [before.reverse]
  | c :: r =>
    match s.next (ignoresQuotes before.reverse) c with
    | some s' => scan s' (c :: before) r
    | none => before.tail.reverse :: scan .start [] r

/-! ## The machine splits -/

theorem ne_of_isQuote {c : Char} (h : isQuote c = true) : c ≠ '\\' ∧ c ≠ '>' := by
  constructor <;> rintro rfl <;> cases h

theorem scan_bracket (before t : Text) (h : ∀ r, t ≠ '>' :: r) :
    scan ⟨none, .bracket⟩ before t = scan .start before t := by
  cases t with
  | nil => rfl
  | cons c r =>
    have hc : c ≠ '>' := by
      rintro rfl
      exact h r rfl
    simp only [scan, Scanner.next, Scanner.start, hc]
    rfl

theorem segments_eq_scan (quote : Option Char) (before t : Text)
    (hquote : ∀ c ∈ quote, isQuote c = true) :
    segments quote before t = scan ⟨quote, .nothing⟩ before t := by
  induction quote, before, t using segments.induct with
  | case1 => simp [segments, scan]
  | case2 quote before c r ih =>
    rw [segments, ih hquote]
    simp [scan, Scanner.next]
  | case3 before r ih =>
    rw [segments, if_pos rfl, ih (by simp)]
    simp [scan, Scanner.next, Scanner.start]
  | case4 quote before r hopen ih =>
    have hne : quote ≠ some '>' := by
      rintro rfl
      exact absurd (hquote '>' rfl) (by decide)
    rw [segments, if_neg hopen, ih hquote]
    simp [scan, Scanner.next, hopen, hne]
  | case5 before c r hpair hbrackets ih =>
    obtain ⟨hback, hbracket⟩ := ne_of_isQuote (hquote c rfl)
    rw [segments, if_pos rfl, ih (by simp)]
    · simp [scan, Scanner.next, hback, hbracket]
    · exact hpair
    · exact hbrackets
  | case6 quote before c r hpair hbrackets hclose hopen ih =>
    obtain ⟨rfl, hc, hheeds⟩ := hopen
    obtain ⟨hback, hbracket⟩ := ne_of_isQuote hc
    rw [segments, if_neg hclose, if_pos ⟨rfl, hc, hheeds⟩, ih (by simpa using hc)]
    · simp only [Bool.not_eq_true'] at hheeds
      simp [scan, Scanner.next, hback, hbracket, hc, hheeds]
    · exact hpair
    · exact hbrackets
  | case7 quote before c r hpair hbrackets hclose hopen ih =>
    rw [segments, if_neg hclose, if_neg hopen, ih hquote]
    · by_cases hback : c = '\\'
      · subst hback
        cases r with
        | nil => simp [scan, Scanner.next]
        | cons d r => exact absurd rfl (hpair d r rfl)
      by_cases hcut : c = '>' ∧ quote = none
      · obtain ⟨rfl, rfl⟩ := hcut
        have hbracket := scan_bracket ('>' :: before) r fun r' h => hbrackets r' rfl h
        simpa [scan, Scanner.next, Scanner.start] using hbracket.symm
      · simp only [scan, Scanner.next, if_neg hback, if_neg hcut, if_neg hclose, if_neg hopen]
        rfl
    · exact hpair
    · exact hbrackets

/-! ## One step -/

namespace Scanner

variable {s s' : Scanner} {c : Char} {t : Text}

theorem next_of_not_quote (ignoring : Bool) (h : isQuote c = false) :
    s.next ignoring c = s.step c := by
  simp [step, next, h]

theorem next_eq_none {ignoring : Bool} (h : s.next ignoring c = none) :
    s = ⟨none, .bracket⟩ ∧ c = '>' := by
  unfold next at h
  split at h
  · simp at h
  split at h
  · simp at h
  split at h
  · rename_i hcut
    split at h
    · rename_i hpending
      obtain ⟨quote, pending⟩ := s
      exact ⟨by rw [Scanner.mk.injEq]; exact ⟨hcut.2, hpending⟩, hcut.1⟩
    · simp at h
  split at h
  · simp at h
  split at h <;> simp at h

theorem next_cases {ignoring : Bool} (h : s.next ignoring c = some s') :
    (s'.quote = s.quote ∧ s'.pending ≠ .bracket) ∨ (s = .start ∧ c = '>' ∧ s' = ⟨none, .bracket⟩) ∨
      s' = .start ∨ (isQuote c = true ∧ s' = ⟨some c, .nothing⟩) := by
  unfold next at h
  split at h
  · cases h
    exact .inl ⟨rfl, by simp⟩
  split at h
  · cases h
    exact .inl ⟨rfl, by simp⟩
  split at h
  · rename_i hback _ hcut
    split at h
    · cases h
    · rename_i hbracket
      cases h
      obtain ⟨quote, pending⟩ := s
      obtain ⟨rfl, rfl⟩ := hcut
      cases pending with
      | nothing => exact .inr (.inl ⟨rfl, rfl, rfl⟩)
      | backslash => exact absurd rfl hback
      | bracket => exact absurd rfl hbracket
  split at h
  · cases h
    exact .inr (.inr (.inl rfl))
  split at h
  · rename_i hopen
    cases h
    exact .inr (.inr (.inr ⟨hopen.2.1, rfl⟩))
  · cases h
    exact .inl ⟨rfl, by simp⟩

theorem IsSound.next {ignoring : Bool} (hs : s.IsSound) (h : s.next ignoring c = some s') :
    s'.IsSound := by
  rcases next_cases h with ⟨hquote, -⟩ | ⟨-, -, rfl⟩ | rfl | ⟨hc, rfl⟩
  · simpa [IsSound, hquote] using hs
  · simp [IsSound]
  · simp [IsSound, start]
  · simpa [IsSound] using hc

theorem IsSound.step (hs : s.IsSound) (h : s.step c = some s') : s'.IsSound := hs.next h

theorem step_inert (hs : s.IsSound) (h : isInert c = true) :
    s.step c = some ⟨s.quote, .nothing⟩ := by
  simp only [isInert, Bool.and_eq_true, bne_iff_ne, Bool.not_eq_true'] at h
  obtain ⟨⟨hback, hbracket⟩, hquote⟩ := h
  have hclose : s.quote ≠ some c := fun heq => by simp [hs c heq] at hquote
  simp [step, next, hback, hbracket, hquote, hclose]

/-! ## A run -/

@[simp] theorem run_nil : s.run [] = some s := rfl

@[simp] theorem run_cons : s.run (c :: t) = (s.step c).bind fun s' => s'.run t := rfl

theorem run_append (s : Scanner) (a b : Text) :
    s.run (a ++ b) = (s.run a).bind fun s' => s'.run b :=
  List.foldlM_append

theorem IsSound.run (hs : s.IsSound) (h : s.run t = some s') : s'.IsSound := by
  induction t generalizing s with
  | nil =>
    obtain rfl := Option.some.inj h
    exact hs
  | cons c t ih =>
    obtain ⟨s₁, hstep, hrun⟩ := Option.bind_eq_some_iff.mp h
    exact ih (hs.step hstep) hrun

theorem start_pending : start.pending ≠ .bracket := by simp [start]

theorem isSound_start : start.IsSound := by simp [IsSound, start]

theorem run_inert (hs : s.IsSound) (h : ∀ c ∈ t, isInert c = true) :
    ∃ s', s.run t = some s' ∧ s'.quote = s.quote ∧ (s.pending = .nothing → s' = s) := by
  induction t generalizing s with
  | nil => exact ⟨s, rfl, rfl, fun _ => rfl⟩
  | cons c t ih =>
    have hstep := step_inert hs (h c List.mem_cons_self)
    obtain ⟨s', hrun, hquote, hsame⟩ :=
      ih (hs.step hstep) fun d hd => h d (List.mem_cons_of_mem _ hd)
    refine ⟨s', by rw [run_cons, hstep]; exact hrun, hquote, fun hpending => ?_⟩
    obtain ⟨quote, pending⟩ := s
    obtain rfl : pending = .nothing := hpending
    exact hsame rfl

theorem run_start_inert (h : ∀ c ∈ t, isInert c = true) : start.run t = some start := by
  obtain ⟨s', hrun, -, hsame⟩ := run_inert isSound_start h
  rw [hrun, hsame rfl]

theorem run_bracket (h : start.run t = some s) (hs : s.pending = .bracket) :
    s = ⟨none, .bracket⟩ ∧ ∃ u, t = u ++ ['>'] ∧ start.run u = some start := by
  rcases List.eq_nil_or_concat t with rfl | ⟨u, c, rfl⟩
  · obtain rfl := Option.some.inj h
    simp [start] at hs
  · rw [List.concat_eq_append, run_append] at h
    obtain ⟨s₁, hu, hc⟩ := Option.bind_eq_some_iff.mp h
    rw [run_cons] at hc
    obtain ⟨s₂, hstep, hnil⟩ := Option.bind_eq_some_iff.mp hc
    obtain rfl := Option.some.inj hnil
    rcases next_cases hstep with ⟨-, hpending⟩ | ⟨rfl, rfl, rfl⟩ | rfl | ⟨-, rfl⟩
    · exact absurd hs hpending
    · exact ⟨rfl, u, by simp, hu⟩
    · cases hs
    · cases hs

end Scanner

/-! ## Splitting -/

theorem hasBrackets_tail {c : Char} {r : Text} (h : hasBrackets (c :: r) = false) :
    hasBrackets r = false := by
  unfold hasBrackets at h
  split at h
  · simp at h
  · rename_i heq
    cases heq
    exact h
  · rename_i heq
    cases heq

theorem scan_of_no_brackets {s : Scanner} {before t : Text} (h : hasBrackets t = false)
    (hs : s.pending = .bracket → ∀ r, t ≠ '>' :: r) : scan s before t = [before.reverse ++ t] := by
  induction t generalizing s before with
  | nil => simp [scan]
  | cons c t ih =>
    cases hnext : s.next (ignoresQuotes before.reverse) c with
    | none =>
      obtain ⟨rfl, rfl⟩ := Scanner.next_eq_none hnext
      exact absurd rfl (hs rfl t)
    | some s' =>
      have hs' : s'.pending = .bracket → ∀ r, t ≠ '>' :: r := by
        rintro hpending r rfl
        rcases Scanner.next_cases hnext with ⟨-, hne⟩ | ⟨-, rfl, -⟩ | rfl | ⟨-, rfl⟩
        · exact hne hpending
        · simp [hasBrackets] at h
        · cases hpending
        · cases hpending
      rw [scan, hnext]
      dsimp only
      rw [ih (hasBrackets_tail h) hs']
      simp

theorem split_eq_scan {t : Text} (h : Text.trim t ≠ []) :
    split t = (scan .start [] t).foldlM (Split.add t) ⟨[], none⟩ := by
  rw [split, if_neg h]
  split
  · rw [segments_eq_scan none [] t (by simp)]
    rfl
  · rename_i hbrackets
    rw [scan_of_no_brackets (by simpa using hbrackets) (by simp [Scanner.start])]
    simp

/-! ## Old text selectors -/

theorem isBlank_inert {c : Char} (h : Text.isBlank c = true) : isInert c = true := by
  have hne : ∀ d, Text.isBlank d = false → c ≠ d := by
    rintro d hd rfl
    simp [hd] at h
  simp [isInert, isQuote, hne '\\' (by decide), hne '>' (by decide), hne '"' (by decide),
    hne '\'' (by decide), hne '`' (by decide)]

theorem isQuote_inert {c : Char} (h : isInert c = true) : isQuote c = false := by
  simp only [isInert, Bool.and_eq_true, Bool.not_eq_true'] at h
  exact h.2

theorem ignoresQuotes_iff {t : Text} :
    ignoresQuotes t = true ↔
      ∃ a w x, t = a ++ ("text" ++ (w ++ '=' :: x)) ∧ (∀ c ∈ a, Text.isBlank c = true) ∧
        (∀ c ∈ w, Text.isBlank c = true) ∧ x ≠ [] := by
  constructor
  · intro h
    unfold ignoresQuotes at h
    split at h
    · rename_i r hr
      split at h
      · rename_i body hbody
        obtain ⟨a, ht, ha⟩ := Text.exists_trimStart t
        obtain ⟨w, hw, hblank⟩ := Text.exists_trimStart r
        refine ⟨a, w, body, ?_, ha, hblank, by simpa using h⟩
        rw [← hbody, ← hw, ← Text.eq_append_of_dropStart? hr, ← ht]
      · cases h
    · cases h
  · rintro ⟨a, w, x, rfl, ha, hw, hx⟩
    have hstart : Text.trimStart (a ++ ("text" ++ (w ++ '=' :: x))) = "text" ++ (w ++ '=' :: x) :=
      Text.trimStart_pad _ ha (by decide)
    have hbody : Text.trimStart (w ++ '=' :: x) = '=' :: x := Text.trimStart_pad x hw rfl
    rw [ignoresQuotes, hstart, Text.dropStart?_append]
    simp only [hbody]
    simpa using hx

theorem ignoresQuotes_append {t : Text} (h : ignoresQuotes t = true) (u : Text) :
    ignoresQuotes (t ++ u) = true := by
  obtain ⟨a, w, x, rfl, ha, hw, hx⟩ := ignoresQuotes_iff.mp h
  exact ignoresQuotes_iff.mpr ⟨a, w, x ++ u, by simp, ha, hw, by simp [hx]⟩

theorem ignoresQuotes_pad {a : Text} (ha : ∀ c ∈ a, Text.isBlank c = true) (t : Text) :
    ignoresQuotes (a ++ t) = ignoresQuotes t := by
  simp only [ignoresQuotes, Text.trimStart, List.dropWhile_append_of_pos ha]

/-- Whether quotes are ignored makes no difference in the text. -/
def IsNeutral (t : Text) : Prop := ignoresQuotes t = true → ∀ c ∈ t, isQuote c = false

theorem isNeutral_inert {t : Text} (h : ∀ c ∈ t, isInert c = true) : IsNeutral t :=
  fun _ c hc => isQuote_inert (h c hc)

theorem IsNeutral.pad {a t : Text} (h : IsNeutral t) (ha : ∀ c ∈ a, Text.isBlank c = true) :
    IsNeutral (a ++ t) := by
  intro hignores c hc
  rw [ignoresQuotes_pad ha] at hignores
  rcases List.mem_append.mp hc with hc | hc
  · exact isQuote_inert (isBlank_inert (ha c hc))
  · exact h hignores c hc

theorem IsNeutral.next_eq {before r : Text} {c : Char} (h : IsNeutral (before.reverse ++ c :: r))
    (s : Scanner) :
    s.next (ignoresQuotes before.reverse) c = s.step c := by
  cases hquote : isQuote c with
  | false => exact Scanner.next_of_not_quote _ hquote
  | true =>
    have hheeds : ignoresQuotes before.reverse = false := by
      by_contra hignores
      have hall := h (ignoresQuotes_append (Bool.of_not_eq_false hignores) _)
      exact absurd (hall c (by simp)) (by simp [hquote])
    rw [hheeds]
    rfl

/-! ## Through a text -/

theorem scan_through {t : Text} {s s' : Scanner} (h : s.run t = some s') (before r : Text)
    (hneutral : IsNeutral (before.reverse ++ t)) :
      scan s before (t ++ r) = scan s' (t.reverse ++ before) r := by
  induction t generalizing s before with
  | nil =>
    obtain rfl := Option.some.inj h
    rfl
  | cons c t ih =>
    obtain ⟨s₁, hstep, hrun⟩ := Option.bind_eq_some_iff.mp h
    have hnext : s.next (ignoresQuotes before.reverse) c = some s₁ := by
      rw [hneutral.next_eq, hstep]
    rw [List.cons_append, scan, hnext]
    dsimp only
    rw [ih hrun (c :: before) (by simpa using hneutral)]
    simp

/-- What is certain to be in the current segment: not a bracket that is open. -/
def settled (s : Scanner) (before : Text) : Text :=
  (if s.pending = .bracket then before.tail else before).reverse

theorem settled_prefix (s : Scanner) (before : Text) :
    ∃ x, before.reverse = settled s before ++ x := by
  unfold settled
  split
  · cases before with
    | nil => exact ⟨[], rfl⟩
    | cons c before => exact ⟨[c], by simp⟩
  · exact ⟨[], by simp⟩

theorem scan_head (s : Scanner) (before t : Text) :
    ∃ x gs, scan s before t = (settled s before ++ x) :: gs := by
  induction t generalizing s before with
  | nil =>
    obtain ⟨x, hx⟩ := settled_prefix s before
    exact ⟨x, [], by rw [scan, hx]⟩
  | cons c t ih =>
    cases hnext : s.next (ignoresQuotes before.reverse) c with
    | none =>
      obtain ⟨rfl, -⟩ := Scanner.next_eq_none hnext
      exact ⟨[], scan .start [] t, by rw [scan, hnext, settled, if_pos rfl, List.append_nil]⟩
    | some s' =>
      obtain ⟨x, hx⟩ := settled_prefix s before
      obtain ⟨y, gs, hy⟩ := ih s' (c :: before)
      have hgrown : ∃ z, settled s' (c :: before) = before.reverse ++ z := by
        unfold settled
        split
        · exact ⟨[], by simp⟩
        · exact ⟨[c], by simp⟩
      obtain ⟨z, hz⟩ := hgrown
      refine ⟨x ++ (z ++ y), gs, ?_⟩
      rw [scan, hnext]
      simpa [hz, hx] using hy

theorem scan_separator {s : Scanner} (hs : s.quote = none) (before r : Text) :
    scan s before (" >> ".toList ++ r) = (before.reverse ++ [' ']) :: scan .start [' '] r := by
  obtain ⟨quote, pending⟩ := s
  obtain rfl : quote = none := hs
  cases pending <;> simp [scan, Scanner.next, Scanner.start, isQuote]

/-! ## The segments of a text -/

/-- The machine runs through each of the texts, and only the last may leave a quotation open. -/
inductive Standing : List Text → Prop where
  | last {t : Text} {s : Scanner} (h : Scanner.start.run t = some s) : Standing [t]
  | cons {t : Text} {ts : List Text} {s : Scanner} (h : Scanner.start.run t = some s)
      (hclosed : s.quote = none)
    (hts : Standing ts) : Standing (t :: ts)

theorem step_of_next {s s' : Scanner} {before t : Text} {c : Char}
    (hnext : s.next (ignoresQuotes before.reverse) c = some s')
    (hneutral : ∀ g ∈ scan s' (c :: before) t, IsNeutral g) : s.step c = some s' := by
  cases hquote : isQuote c with
  | false => rw [← hnext, Scanner.next_of_not_quote _ hquote]
  | true =>
    -- a quote is never held back, so it is in the first of these segments
    have hbracket : s'.pending ≠ .bracket := by
      rcases Scanner.next_cases hnext with ⟨-, hpending⟩ | ⟨-, rfl, -⟩ | rfl | ⟨-, rfl⟩
      · exact hpending
      · exact absurd hquote (by decide)
      · simp [Scanner.start]
      · simp
    obtain ⟨x, gs, hhead⟩ := scan_head s' (c :: before) t
    have hfirst : IsNeutral (before.reverse ++ c :: x) := by
      refine hneutral _ ?_
      rw [hhead, settled, if_neg hbracket]
      simp
    rw [← hnext, hfirst.next_eq]

theorem scan_standing {s : Scanner} {before t : Text}
    (h : Scanner.start.run before.reverse = some s)
    (hneutral : ∀ g ∈ scan s before t, IsNeutral g) : Standing (scan s before t) := by
  induction t generalizing s before with
  | nil => exact .last h
  | cons c t ih =>
    cases hnext : s.next (ignoresQuotes before.reverse) c with
    | none =>
      obtain ⟨rfl, rfl⟩ := Scanner.next_eq_none hnext
      obtain ⟨-, u, hu, hrun⟩ := Scanner.run_bracket h rfl
      have hsegment : before.tail.reverse = u := by
        obtain rfl := List.reverse_eq_iff.mp hu
        simp
      have hscan : scan ⟨none, .bracket⟩ before ('>' :: t) = u :: scan .start [] t := by
        rw [scan, hnext, hsegment]
      rw [hscan] at hneutral ⊢
      exact .cons hrun rfl (ih rfl fun g hg => hneutral g (List.mem_cons_of_mem _ hg))
    | some s' =>
      have hscan : scan s before (c :: t) = scan s' (c :: before) t := by rw [scan, hnext]
      rw [hscan] at hneutral ⊢
      refine ih ?_ hneutral
      rw [List.reverse_cons, Scanner.run_append, h]
      simpa using step_of_next hnext hneutral

theorem length_le_of_mem_scan {s : Scanner} {before t g : Text} (h : g ∈ scan s before t) :
    g.length ≤ before.length + t.length := by
  induction t generalizing s before with
  | nil =>
    obtain rfl := List.mem_singleton.mp h
    simp
  | cons c t ih =>
    rw [scan] at h
    split at h
    · have hlen := ih h
      simp only [List.length_cons] at hlen ⊢
      omega
    · rcases List.mem_cons.mp h with rfl | h
      · simp only [List.length_reverse, List.length_tail]
        omega
      · have hlen := ih h
        simp only [List.length_cons, List.length_nil] at hlen ⊢
        omega

end Scenarist.Chain

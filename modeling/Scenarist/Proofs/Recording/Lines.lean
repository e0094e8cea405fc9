import Scenarist.Draft.Transcript
import Scenarist.Proofs.Outcome

/-! # What the lines of a recording hold

A line is blank, or an entry, or at fault. Reading a whole recording gives its entries unless a line
is at fault, and then blames the first such line by its number.
-/

namespace Scenarist.Recording

/-! ## One line -/

/-- The entry that a line holds. -/
def entryOf? (line : Text) : Option Entry :=
  if isBlankLine line then none else (Entry.ofLine line).toOption

/-- The line is neither blank nor an entry. -/
def isFaultyLine (line : Text) : Bool := !isBlankLine line && (entryOf? line).isNone

/-- What the lines hold, if they are numbered from `first` on. -/
def outcomes (first : Nat) (ls : List Text) : List (Except Fault Entry) :=
  (numbered first ls).map fun (index, line) => readLine index line

theorem readLines_eq (t : Text) : readLines t = outcomes 1 (Text.lines t) := rfl

theorem outcomes_cons (first : Nat) (line : Text) (ls : List Text) :
    (isFaultyLine line = false ∧ entryOf? line = none ∧
      outcomes first (line :: ls) = outcomes (first + 1) ls) ∨
      (∃ e, isFaultyLine line = false ∧ entryOf? line = some e ∧
        outcomes first (line :: ls) = .ok e :: outcomes (first + 1) ls) ∨
      ∃ fault, isFaultyLine line = true ∧ entryOf? line = none ∧ Entry.ofLine line = .error fault ∧
        outcomes first (line :: ls) = .error ⟨first, line, fault⟩ :: outcomes (first + 1) ls := by
  unfold outcomes isFaultyLine entryOf?
  rw [numbered]
  cases hblank : isBlankLine line with
  | true => simp
  | false =>
    cases hline : Entry.ofLine line with
    | ok e => exact .inr (.inl ⟨e, rfl, rfl, by simp [readLine, hline]⟩)
    | error fault => exact .inr (.inr ⟨fault, rfl, rfl, rfl, by simp [readLine, hline]⟩)

/-! ## All lines -/

/-- The entries that the lines hold. -/
def entriesOf (ls : List Text) : List Entry := ls.filterMap entryOf?

theorem entries_outcomes (first : Nat) (ls : List Text) :
    (outcomes first ls).filterMap Except.toOption = entriesOf ls := by
  induction ls generalizing first with
  | nil => rfl
  | cons line ls ih =>
    unfold entriesOf at ih ⊢
    rcases outcomes_cons first line ls
      with ⟨-, hentry, hcons⟩ | ⟨e, -, hentry, hcons⟩ | ⟨fault, -, hentry, -, hcons⟩
    · rw [hcons, ih, List.filterMap_cons_none hentry]
    · simp only [hcons, List.filterMap_cons, Except.toOption, hentry, ih]
    · simp only [hcons, List.filterMap_cons, Except.toOption, hentry, ih]

/-- The faults of the lines, if they are numbered from `first` on. -/
def faultsFrom (first : Nat) (ls : List Text) : List Fault :=
  (outcomes first ls).filterMap Transcript.faultOf?

theorem faultsFrom_cons (first : Nat) (line : Text) (ls : List Text) :
    (isFaultyLine line = false ∧ faultsFrom first (line :: ls) = faultsFrom (first + 1) ls) ∨
      ∃ fault, isFaultyLine line = true ∧ Entry.ofLine line = .error fault ∧
        faultsFrom first (line :: ls) = ⟨first, line, fault⟩ :: faultsFrom (first + 1) ls := by
  unfold faultsFrom
  rcases outcomes_cons first line ls
    with ⟨hfine, -, hcons⟩ | ⟨e, hfine, -, hcons⟩ | ⟨fault, hfaulty, -, hfault, hcons⟩
  · exact .inl ⟨hfine, by rw [hcons]⟩
  · exact .inl ⟨hfine, by simp only [hcons, List.filterMap_cons, Transcript.faultOf?]⟩
  · exact .inr ⟨fault, hfaulty, hfault,
      by simp only [hcons, List.filterMap_cons, Transcript.faultOf?]⟩

theorem length_faultsFrom (first : Nat) (ls : List Text) :
    (faultsFrom first ls).length = ls.countP isFaultyLine := by
  induction ls generalizing first with
  | nil => rfl
  | cons line ls ih =>
    rcases faultsFrom_cons first line ls with ⟨hfine, hcons⟩ | ⟨fault, hfaulty, -, hcons⟩
    · rw [hcons, ih, List.countP_cons_of_neg (by simp [hfine])]
    · rw [hcons, List.length_cons, ih, List.countP_cons_of_pos hfaulty]

/-- The fault is that of the first line at fault, whose number counts all lines from `first` on. -/
def Blames (first : Nat) (ls : List Text) (f : Fault) : Prop :=
  ∃ before after, ls = before ++ f.text :: after ∧ (∀ line ∈ before, isFaultyLine line = false) ∧
    isBlankLine f.text = false ∧ Entry.ofLine f.text = .error f.fault ∧
      f.line = first + before.length

theorem Blames.isFaultyLine {first : Nat} {ls : List Text} {f : Fault} (h : Blames first ls f) :
    isFaultyLine f.text = true := by
  obtain ⟨before, after, -, -, hblank, hfault, -⟩ := h
  simp [Recording.isFaultyLine, entryOf?, hblank, hfault, Except.toOption]

theorem blames_cons_iff {first : Nat} {line : Text} {ls : List Text} {f : Fault}
    (h : isFaultyLine line = false) :
    Blames first (line :: ls) f ↔ Blames (first + 1) ls f := by
  constructor
  · intro hblames
    have hfaulty := hblames.isFaultyLine
    obtain ⟨before, after, hls, hbefore, hblank, hfault, hline⟩ := hblames
    cases before with
    | nil =>
      obtain ⟨rfl, -⟩ := List.cons.inj hls
      rw [h] at hfaulty
      cases hfaulty
    | cons line' before =>
      obtain ⟨-, hls⟩ := List.cons.inj hls
      refine ⟨before, after, hls, fun l hl => hbefore l (List.mem_cons_of_mem _ hl), hblank, hfault,
        ?_⟩
      rw [hline, List.length_cons]
      omega
  · rintro ⟨before, after, rfl, hbefore, hblank, hfault, hline⟩
    refine ⟨line :: before, after, rfl, List.forall_mem_cons.mpr ⟨h, hbefore⟩, hblank, hfault, ?_⟩
    rw [hline, List.length_cons]
    omega

theorem blames_cons_self {first : Nat} {line : Text} {ls : List Text} {fault : Json.Fault}
    (h : isFaultyLine line = true)
    (hfault : Entry.ofLine line = .error fault) (f : Fault) :
      Blames first (line :: ls) f ↔ ⟨first, line, fault⟩ = f := by
  constructor
  · rintro ⟨before, after, hls, hbefore, -, hline, hnumber⟩
    cases before with
    | nil =>
      obtain ⟨rfl, -⟩ := List.cons.inj hls
      obtain rfl := Except.error.inj (hfault.symm.trans hline)
      obtain rfl : f.line = first := hnumber
      rfl
    | cons line' before =>
      obtain ⟨rfl, -⟩ := List.cons.inj hls
      rw [hbefore line List.mem_cons_self] at h
      cases h
  · rintro rfl
    refine ⟨[], ls, rfl, by simp, ?_, hfault, rfl⟩
    unfold isFaultyLine at h
    simp only [Bool.and_eq_true, Bool.not_eq_true'] at h
    exact h.1

theorem head?_faultsFrom (first : Nat) (ls : List Text) (f : Fault) :
    (faultsFrom first ls).head? = some f ↔ Blames first ls f := by
  induction ls generalizing first with
  | nil => simp [faultsFrom, outcomes, numbered, Blames]
  | cons line ls ih =>
    rcases faultsFrom_cons first line ls with ⟨hfine, hcons⟩ | ⟨fault, hfaulty, hfault, hcons⟩
    · rw [hcons, ih, blames_cons_iff hfine]
    · rw [hcons, List.head?_cons, Option.some.injEq, blames_cons_self hfaulty hfault]

/-! ## Reading everything -/

theorem mapM_outcomes (xs : List (Except Fault Entry)) :
    xs.mapM id = (xs.filterMap Transcript.faultOf?).head?.elim
      (.ok (xs.filterMap Except.toOption)) .error := by
  induction xs with
  | nil => rfl
  | cons x xs ih =>
    rw [List.mapM_cons, ih]
    cases x with
    | error fault => rfl
    | ok e =>
      simp only [List.filterMap_cons, Transcript.faultOf?, Except.toOption, id_eq, ok_bind]
      cases (xs.filterMap Transcript.faultOf?).head? <;> rfl

theorem read_eq (t : Text) :
    read t = (faultsFrom 1 (Text.lines t)).head?.elim (.ok (entriesOf (Text.lines t))) .error := by
  rw [read, mapM_outcomes, readLines_eq, entries_outcomes]
  rfl

theorem read_eq_ok_iff (t : Text) (es : List Entry) :
    read t = .ok es ↔ faultsFrom 1 (Text.lines t) = [] ∧ es = entriesOf (Text.lines t) := by
  rw [read_eq]
  cases faultsFrom 1 (Text.lines t) with
  | nil => simp [eq_comm]
  | cons f fs => simp

theorem read_eq_error_iff (t : Text) (f : Fault) :
    read t = .error f ↔ Blames 1 (Text.lines t) f := by
  rw [read_eq, ← head?_faultsFrom]
  cases faultsFrom 1 (Text.lines t) with
  | nil => simp
  | cons g gs => simp

end Scenarist.Recording

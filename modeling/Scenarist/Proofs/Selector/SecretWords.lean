import Mathlib.Data.List.Forall2
import Scenarist.Proofs.Pattern.Folded
import Scenarist.Proofs.Text.Lowercase
import Scenarist.Selector.Secret

/-! # Words for secrets

A field is secret if its small letters hold a word for a secret, that is if the word stands there in
letters A to Z of either case. A pattern of the same words without regard to case matches these
fields, and besides those where a long s stands for an `s`: to a pattern that is a case of the
letter, but it is a small letter of its own.
-/

namespace Scenarist

open Unicode

/-! ## The letters of the words -/

def secretLetters : Text := "paswordecrt"

theorem mem_secretLetters : ∀ w ∈ secretMarkers, ∀ l ∈ w, l ∈ secretLetters := by
  have hall : ∀ w ∈ secretMarkers, w.all (decide <| · ∈ secretLetters) = true := by decide
  exact fun w hw l hl => of_decide_eq_true (List.all_eq_true.mp (hall w hw) l hl)

/-- A long s read as `s`. -/
def shortS (c : Char) : Char := if c = '\u017F' then 's' else c

theorem isScalar_lowerRuns : ∀ run ∈ lowerRuns, run.IsScalar := by decide +kernel

variable {l : Char} {w : Text}

theorem lowerChar_eq_iff (hl : l ∈ secretLetters) (c : Char) :
    lowerChar c = l ↔ c = l ∨ c = l.toUpper := by
  have hsources :
      ∀ l ∈ secretLetters, lowerRuns.filterMap (·.source? l.toNat) = [l.toUpper.toNat] :=
    List.forall_iff_forall_mem.mp (by decide +kernel)
  have hlower : ∀ l ∈ secretLetters, lowerChar l = l ∧ lowerChar l.toUpper = l :=
    List.forall_iff_forall_mem.mp (by decide +kernel)
  constructor
  · intro h
    have hsource := eq_or_source_of_applyRuns isScalar_lowerRuns h
    rwa [hsources l hl, List.mem_singleton, Char.toNat_inj] at hsource
  · rintro (rfl | rfl)
    · exact (hlower _ hl).1
    · exact (hlower l hl).2

theorem fold_eq_iff (hl : l ∈ secretLetters) (c : Char) :
    fold c = fold l ↔ shortS c = l ∨ shortS c = l.toUpper := by
  have horbit : ∀ l ∈ secretLetters, orbit l = if l = 's' then ['s', 'S', '\u017F']
      else [l, l.toUpper] :=
    List.forall_iff_forall_mem.mp (by decide +kernel)
  have hlong : ∀ l ∈ secretLetters, l ≠ '\u017F' ∧ l.toUpper ≠ '\u017F' ∧ l.toUpper ≠ 's' :=
    List.forall_iff_forall_mem.mp (by decide)
  obtain ⟨hlower, hupper, hs⟩ := hlong l hl
  rw [← mem_orbit, horbit l hl, shortS]
  by_cases hc : c = '\u017F'
  · subst hc
    by_cases hl : l = 's'
    · simp [hl]
    · simp [hl, hlower.symm, hupper.symm, hs.symm, Ne.symm hl]
  · by_cases hl : l = 's'
    · simp [hl, hc]
    · simp [hl, hc]

/-! ## The words in a field -/

/-- The text is the word, each letter as it is or as a capital. -/
def Spells (w m : Text) : Prop := List.Forall₂ (fun l c => c = l ∨ c = l.toUpper) w m

/-- A word for a secret stands in the field. -/
def NamesSecret (f : Text) : Prop := ∃ w ∈ secretMarkers, ∃ x m y, f = x ++ (m ++ y) ∧ Spells w m

theorem Spells.map_shortS {m : Text} (hw : ∀ l ∈ w, l ∈ secretLetters) (h : Spells w m) :
    m.map shortS = m := by
  have hshort : ∀ l ∈ secretLetters, shortS l = l ∧ shortS l.toUpper = l.toUpper :=
    List.forall_iff_forall_mem.mp (by decide)
  induction h with
  | nil => rfl
  | cons hc _ ih =>
    obtain ⟨hl, hrest⟩ := List.forall_mem_cons.mp hw
    rw [List.map_cons, ih hrest]
    rcases hc with rfl | rfl
    · rw [(hshort _ hl).1]
    · rw [(hshort _ hl).2]

/-- A word that stands in a field stands there as well once each long s is read as `s`. -/
theorem NamesSecret.short {f : Text} (h : NamesSecret f) : NamesSecret (f.map shortS) := by
  obtain ⟨w, hw, x, m, y, rfl, hspells⟩ := h
  refine ⟨w, hw, x.map shortS, m, y.map shortS, ?_, hspells⟩
  rw [List.map_append, List.map_append, hspells.map_shortS (mem_secretLetters w hw)]

theorem map_eq_iff_spells {f g r : Char → Char}
    (hw : ∀ l ∈ w, ∀ c, f c = g l ↔ r c = l ∨ r c = l.toUpper) (m : Text) :
    m.map f = w.map g ↔ Spells w (m.map r) := by
  induction w generalizing m with
  | nil => simp [Spells]
  | cons l w ih =>
    obtain ⟨hl, hrest⟩ := List.forall_mem_cons.mp hw
    cases m with
    | nil => simp [Spells]
    | cons c m => simp [Spells, hl, ih hrest]

theorem map_lowerChar_eq_iff (hw : ∀ l ∈ w, l ∈ secretLetters) (m : Text) :
    m.map lowerChar = w ↔ Spells w m := by
  have hiff := map_eq_iff_spells (g := id) (r := id) (fun l hl => lowerChar_eq_iff (hw l hl)) m
  rwa [List.map_id, List.map_id] at hiff

theorem map_fold_eq_iff (hw : ∀ l ∈ w, l ∈ secretLetters) (m : Text) :
    m.map fold = w.map fold ↔ Spells w (m.map shortS) :=
  map_eq_iff_spells (fun l hl => fold_eq_iff (hw l hl)) m

theorem accepts_marker_iff (hw : w ∈ secretMarkers) (f : Text) :
    (TextMatcher.plain w).accepts f = true ↔ ∃ x m y, f = x ++ (m ++ y) ∧ Spells w m := by
  have hsmall : ∀ w ∈ secretMarkers, w ≠ [] ∧ w.all Text.isSteady = true ∧ Text.toLower w = w := by
    decide +kernel
  obtain ⟨hne, hsteady, hlower⟩ := hsmall w hw
  rw [TextMatcher.accepts, hlower, Text.occursIn_toLower_iff hne (List.all_eq_true.mp hsteady)]
  simp only [map_lowerChar_eq_iff (mem_secretLetters w hw)]

theorem any_accepts_iff (f : Text) :
    (secretMarkers.any fun w => (TextMatcher.plain w).accepts f) = true ↔ NamesSecret f := by
  rw [List.any_eq_true, NamesSecret]
  exact exists_congr fun w => and_congr_right fun hw => accepts_marker_iff hw f

/-! ## The pattern of the words -/

namespace Pattern

/-- The text and a last letter, in any case. -/
def Expr.anyCase (t : Text) (last : Char) : Expr := (Expr.set (.anyCase (.char last))).anyCaseThen t

theorem Expr.matches_anyCase {before behind : Option Char} {m t : Text} {last : Char} :
    (Expr.anyCase t last).Matches before m behind ↔ m.map fold = (t ++ [last]).map fold := by
  simp only [Expr.anyCase, matches_anyCaseThen, Matches, CharSet.contains_anyCase_char]
  constructor
  · rintro ⟨m₁, _, rfl, hfold, c, rfl, hc⟩
    simp [hfold, hc]
  · intro h
    rw [List.map_append] at h
    obtain ⟨m₁, m₂, rfl, hfold, hlast⟩ := List.map_eq_append_iff.mp h
    obtain ⟨c, rfl, hc⟩ := List.map_eq_singleton_iff.mp hlast
    exact ⟨m₁, [c], rfl, hfold, c, rfl, hc⟩

/-- The words for secrets, one or the other. -/
def secretWords : Expr :=
  .alt (.anyCase "passwor" 'd')
    (.alt (.anyCase "pw" 'd') (.alt (.anyCase "secre" 't') (.set .none)))

theorem compile_secretWords : compile "password|pwd|secret" "i" = .ok secretWords := rfl

theorem isBounded_secretWords : secretWords.IsBounded :=
  ⟨Expr.isBounded_anyCaseThen _ trivial, Expr.isBounded_anyCaseThen _ trivial,
    Expr.isBounded_anyCaseThen _ trivial, trivial⟩

theorem matches_secretWords {before behind : Option Char} {m : Text} :
    secretWords.Matches before m behind ↔ ∃ w ∈ secretMarkers, m.map fold = w.map fold := by
  have hmarkers : secretMarkers = ["passwor" ++ ['d'], "pw" ++ ['d'], "secre" ++ ['t']] := rfl
  have hnone : ¬ (Expr.set .none).Matches before m behind := by
    rintro ⟨c, -, hc⟩
    cases hc
  rw [hmarkers]
  change _ ∨ _ ∨ _ ∨ (Expr.set .none).Matches before m behind ↔ _
  simp only [Expr.matches_anyCase, hnone, or_false, List.mem_cons, List.not_mem_nil,
    exists_eq_or_imp, exists_eq_left]

theorem occursIn_secretWords (f : Text) :
    secretWords.occursIn f = true ↔ NamesSecret (f.map shortS) := by
  rw [Expr.occursIn_iff isBounded_secretWords, NamesSecret]
  simp only [matches_secretWords]
  constructor
  · rintro ⟨x, m, y, rfl, w, hw, hfold⟩
    refine ⟨w, hw, x.map shortS, m.map shortS, y.map shortS, by simp, ?_⟩
    exact (map_fold_eq_iff (mem_secretLetters w hw) m).mp hfold
  · rintro ⟨w, hw, x', m', y', hf, hspells⟩
    obtain ⟨x, r, rfl, rfl, hr⟩ := List.map_eq_append_iff.mp hf
    obtain ⟨m, y, rfl, rfl, rfl⟩ := List.map_eq_append_iff.mp hr
    exact ⟨x, m, y, rfl, w, hw, (map_fold_eq_iff (mem_secretLetters w hw) m).mpr hspells⟩

end Pattern

/-! ## Masking -/

namespace Selector

/-- The text by which the element of the selector is told from others. -/
def field? (s : Selector) : Option Text := s.element.bind Element.discriminatingText?

theorem masked_of_field_none {s : Selector} (h : s.field? = none) (text : Text) :
    s.masked text = text := by
  have hsecret : s.isSecret = false := by
    rw [isSecret, ← field?, h]
    rfl
  rw [masked, hsecret, if_neg Bool.false_ne_true]

theorem masks_iff {s : Selector} {f : Text} (h : s.field? = some f) :
    (∀ text, s.masked text = mask) ↔ NamesSecret f := by
  have hsecret : s.isSecret = true ↔ NamesSecret f := by
    rw [isSecret, ← field?, h]
    exact any_accepts_iff f
  rw [← hsecret]
  constructor
  · intro hmask
    by_contra hno
    have hnil := hmask []
    rw [masked, if_neg hno] at hnil
    cases hnil
  · intro hyes text
    rw [masked, if_pos hyes]

/-- The pattern of the words compiles. What is typed into a field is masked just if a word stands in
the field in letters A to Z; the pattern matches just if one stands there once each long s is read
as `s`. So the two verdicts are the same unless the field has a word only with a long s, and then
only the pattern finds it. -/
theorem masks_iff_pattern (s : Selector) :
    ∃ e, Pattern.compile "password|pwd|secret" "i" = .ok e ∧
      (s.field? = none → ∀ text, s.masked text = text) ∧
      ∀ f, s.field? = some f →
        ((∀ text, s.masked text = mask) ↔ NamesSecret f) ∧
          (e.occursIn f = true ↔ NamesSecret (f.map shortS)) ∧
          (((∀ text, s.masked text = mask) ↔ e.occursIn f = true) ↔
            (NamesSecret (f.map shortS) → NamesSecret f)) ∧
          ((∀ text, s.masked text = mask) → e.occursIn f = true) ∧
          ('\u017F' ∉ f → ((∀ text, s.masked text = mask) ↔ e.occursIn f = true)) := by
  refine ⟨Pattern.secretWords, Pattern.compile_secretWords, masked_of_field_none, fun f h => ?_⟩
  rw [masks_iff h, Pattern.occursIn_secretWords]
  have hsame : (NamesSecret f ↔ NamesSecret (f.map shortS)) ↔
      (NamesSecret (f.map shortS) → NamesSecret f) :=
    ⟨Iff.mpr, fun hback => ⟨NamesSecret.short, hback⟩⟩
  refine ⟨Iff.rfl, Iff.rfl, hsame, NamesSecret.short, fun hlong => ?_⟩
  have hshort : ∀ c ∈ f, shortS c = id c :=
    fun c hc => if_neg fun (heq : c = '\u017F') => hlong (heq ▸ hc)
  rw [List.map_congr_left hshort, List.map_id]

/-- A field with one of the words is masked, and the pattern matches it. An image has no such field,
whatever stands in its place. -/
theorem masks_iff_pattern_label :
    let f : Text := "Your PassWord"
    let s := ofElement (.label (.plain f))
    let image := ofElement (.alt (.plain f))
    (s.field? = some f ∧ '\u017F' ∉ f ∧ (∀ text, s.masked text = mask) ∧
        ∃ e, Pattern.compile "password|pwd|secret" "i" = .ok e ∧ e.occursIn f = true) ∧
      image.field? = none ∧ ∀ text, image.masked text = text := by
  intro f s image
  have hfield : s.field? = some f := rfl
  have hlong : '\u017F' ∉ f := by decide
  obtain ⟨e, he, -, hfields⟩ := masks_iff_pattern s
  obtain ⟨hnames, -, -, -, hsame⟩ := hfields f hfield
  obtain ⟨-, -, hnone, -⟩ := masks_iff_pattern image
  have hmasked : ∀ text, s.masked text = mask := by
    refine hnames.mpr ⟨"password", by decide, "Your ", "PassWord", [], rfl, ?_⟩
    rw [Spells]
    decide
  exact ⟨⟨hfield, hlong, hmasked, e, he, (hsame hlong).mp hmasked⟩, rfl, hnone rfl⟩

/-- A word with a long s is left as it is, though the pattern matches it. -/
theorem long_s_not_masked :
    let f : Text := "pa\u017Fsword"
    let s := ofElement (.label (.plain f))
    s.field? = some f ∧
      (∃ e, Pattern.compile "password|pwd|secret" "i" = .ok e ∧ e.occursIn f = true) ∧
      s.masked "hunter2" ≠ mask := by
  intro f s
  refine ⟨rfl, ⟨Pattern.secretWords, Pattern.compile_secretWords, ?_⟩, ?_⟩
  · decide +kernel
  · decide +kernel

end Selector

end Scenarist

import Scenarist.Proofs.Outcome
import Scenarist.Proofs.Text.Digits
import Scenarist.Proofs.Text.Lines
import Scenarist.Proofs.Url.Punycode
import Scenarist.Url.Domain

/-! # The ASCII form of a domain name

The ASCII form of a name is its own ASCII form. Its characters map to themselves and compose with
nothing, and each of its labels is read as the label that it was written for: a label in ASCII by
itself, another one by its Punycode.
-/

namespace Scenarist

open Punycode (isAscii IsDigit)
open Text (splitAll_join)

/-! ## Composition -/

namespace Unicode

theorem decompose_ascii {c : Char} (h : isAscii c = true) (depth : Nat) :
    decompose depth c = [c] := by
  rw [Punycode.isAscii_iff] at h
  cases depth with
  | zero => rfl
  | succ depth => rw [decompose, parts?, if_pos (by omega)]

theorem markClass_ascii {c : Char} (h : isAscii c = true) : markClass c = 0 := by
  rw [Punycode.isAscii_iff] at h
  rw [markClass, if_pos (by omega)]

theorem settleMark_ascii {c : Char} (h : isAscii c = true) (before : Text) :
    settleMark c before = c :: before := by
  cases before with
  | nil => rfl
  | cons d before => rw [settleMark, markClass_ascii h, if_neg (by simp)]

theorem composeFrom_ascii (letter : Char) {t : Text} (h : ∀ c ∈ t, isAscii c = true) :
    composeFrom letter [] t = letter :: t := by
  induction t generalizing letter with
  | nil => rfl
  | cons c t ih =>
    obtain ⟨hc, ht⟩ := List.forall_mem_cons.mp h
    have hapart : composed? letter c = none := by
      rw [Punycode.isAscii_iff] at hc
      rw [composed?, if_pos (by omega)]
    rw [composeFrom]
    simp only [if_true, hapart, markClass_ascii hc, List.reverse_nil, ih c ht]
    rfl

theorem foldl_settleMark_ascii {t : Text} (h : ∀ c ∈ t, isAscii c = true) (before : Text) :
    t.foldl (fun before c => settleMark c before) before = t.reverse ++ before := by
  induction t generalizing before with
  | nil => rfl
  | cons c t ih =>
    obtain ⟨hc, ht⟩ := List.forall_mem_cons.mp h
    rw [List.foldl_cons, settleMark_ascii hc, ih ht]
    simp

theorem compose_ascii {t : Text} (h : ∀ c ∈ t, isAscii c = true) : compose t = t := by
  have hparts : t.flatMap (decompose maxParts) = t := by
    rw [List.flatMap_def, List.map_congr_left fun c hc => decompose_ascii (h c hc) maxParts,
      ← List.flatMap_def, List.flatMap_singleton']
  rw [compose]
  simp only [hparts, foldl_settleMark_ascii h, List.append_nil, List.reverse_reverse]
  cases t with
  | nil => rfl
  | cons c r => exact composeFrom_ascii c (List.forall_mem_cons.mp h).2

end Unicode

open Unicode

namespace Domain

/-! ## Characters of ASCII forms -/

/-- An ASCII character, and not a capital. -/
def IsPlain (c : Char) : Prop := isAscii c = true ∧ c.isUpper = false

theorem toLower_of_not_upper {c : Char} (h : c.isUpper = false) : c.toLower = c :=
  dif_neg (of_decide_eq_false h)

theorem not_isUpper_toLower {c : Char} (h : isAscii c = true) : c.toLower.isUpper = false := by
  have all : ∀ n < 0x80, (Char.ofNat n).toLower.isUpper = false := by decide
  have hc := all c.toNat ((Punycode.isAscii_iff c).mp h)
  rwa [Char.ofNat_toNat] at hc

theorem domainForm?_eq_self_iff {c : Char} (h : isAscii c = true) :
    domainForm? c = some [c] ↔ c.isUpper = false := by
  rw [domainForm?, if_pos ((Punycode.isAscii_iff c).mp h)]
  simp only [Option.some.injEq, List.cons.injEq, and_true]
  constructor
  · intro heq
    rw [← heq]
    exact not_isUpper_toLower h
  · exact toLower_of_not_upper

theorem normalForm?_plain {name : Text} (h : ∀ c ∈ name, IsPlain c) :
    normalForm? name = some name := by
  have hforms : name.mapM domainForm? = some (name.map fun c => [c]) :=
    mapM_of_some fun c hc => (domainForm?_eq_self_iff (h c hc).1).mpr (h c hc).2
  rw [normalForm?, hforms, Option.map_some, ← List.flatMap_def, List.flatMap_singleton',
    compose_ascii fun c hc => (h c hc).1]

theorem isAscii_alphanum {c : Char} (h : c.isAlphanum = true) : isAscii c = true := by
  have hrange := Text.alphanum_range h
  rw [Punycode.isAscii_iff]
  omega

theorem isPlain_digit {c : Char} (h : IsDigit c) : IsPlain c := by
  obtain ⟨d, hd, rfl⟩ := h
  obtain ⟨halphanum, hupper⟩ := Punycode.isAlphanum_digitChar hd
  exact ⟨isAscii_alphanum halphanum, hupper⟩

/-! ## Labels -/

theorem isValid_iff {label : Text} :
    isValid label = true ↔
      compose label = label ∧ (∀ c ∈ label, c ≠ '.' ∧ domainForm? c = some [c]) ∧
        label.head?.any isMark = false ∧ Text.dropStart? asciiMark label = none ∧
          joinersFit [] label = true := by
  simp only [isValid, Bool.and_eq_true, beq_iff_eq, List.all_eq_true, bne_iff_ne,
    Bool.not_eq_true', Option.isNone_iff_eq_none, and_assoc]

theorem isPlain_of_isValid {label : Text} (h : isValid label = true) {c : Char} (hc : c ∈ label)
    (hascii : isAscii c = true) : IsPlain c ∧ c ≠ '.' := by
  obtain ⟨-, hchars, -⟩ := isValid_iff.mp h
  obtain ⟨hpoint, hself⟩ := hchars c hc
  exact ⟨⟨hascii, (domainForm?_eq_self_iff hascii).mp hself⟩, hpoint⟩

theorem mem_labelToAscii {label : Text} (h : isValid label = true) {c : Char}
    (hc : c ∈ labelToAscii label) : IsPlain c ∧ c ≠ '.' := by
  unfold labelToAscii at hc
  split at hc
  · rename_i hall
    exact isPlain_of_isValid h hc (List.all_eq_true.mp hall c hc)
  · have hmark : ∀ c ∈ asciiMark, IsPlain c ∧ c ≠ '.' := by
      intro c hc
      have hletter : c = 'x' ∨ c = 'n' ∨ c = '-' := by simpa [asciiMark] using hc
      rcases hletter with rfl | rfl | rfl <;> exact ⟨⟨rfl, rfl⟩, by decide⟩
    rcases List.mem_append.mp hc with hc | hc
    · exact hmark c hc
    · rcases Punycode.mem_encode hc with ⟨hc, hascii⟩ | rfl | hdigit
      · exact isPlain_of_isValid h hc hascii
      · exact ⟨⟨rfl, rfl⟩, by decide⟩
      · exact ⟨isPlain_digit hdigit, hdigit.ne (by decide)⟩

/-- What is written for a label is read as the label. -/
theorem label?_labelToAscii {label : Text} (h : isValid label = true) :
    label? (labelToAscii label) = some label := by
  unfold labelToAscii
  split
  · obtain ⟨-, -, -, hmark, -⟩ := isValid_iff.mp h
    rw [label?, hmark]
    simp only [Option.filter_some, h, if_true]
  · rename_i hall
    rw [label?, Text.dropStart?_append]
    simp only [Punycode.decode?_encode, Option.filter_some, hall, h, Bool.not_false, if_true]

theorem isValid_of_label? {written label : Text} (h : label? written = some label) :
    isValid label = true :=
  (Option.filter_eq_some_iff.mp h).2

theorem joinersFit_ascii {t : Text} (h : ∀ c ∈ t, isAscii c = true) (before : Text) :
    joinersFit before t = true := by
  induction t generalizing before with
  | nil => rfl
  | cons c t ih =>
    obtain ⟨hc, ht⟩ := List.forall_mem_cons.mp h
    have hnon : c ≠ nonJoiner := by
      rintro rfl
      cases hc
    have hjoin : c ≠ joiner := by
      rintro rfl
      cases hc
    rw [joinersFit, if_neg hnon, if_neg hjoin, ih ht]
    rfl

theorem isMark_ascii {c : Char} (h : isAscii c = true) : isMark c = false := by
  rw [Punycode.isAscii_iff] at h
  rw [isMark, decide_eq_false (by omega)]
  rfl

theorem isValid_plain {label : Text} (h : ∀ c ∈ label, IsPlain c) (hpoint : '.' ∉ label)
    (hmark : Text.dropStart? asciiMark label = none) : isValid label = true := by
  have hascii : ∀ c ∈ label, isAscii c = true := fun c hc => (h c hc).1
  refine isValid_iff.mpr
    ⟨compose_ascii hascii, fun c hc => ⟨?_, ?_⟩, ?_, hmark, joinersFit_ascii hascii []⟩
  · rintro rfl
    exact hpoint hc
  · exact (domainForm?_eq_self_iff (hascii c hc)).mpr (h c hc).2
  · cases label with
    | nil => rfl
    | cons c label => exact isMark_ascii (hascii c List.mem_cons_self)

/-! ## Names -/

variable {labels : List Text}

theorem isRightToLeft_ascii {c : Char} (h : isAscii c = true) : isRightToLeft c = false := by
  rw [Punycode.isAscii_iff] at h
  rw [isRightToLeft, decide_eq_false (by omega)]
  rfl

theorem directionsFit_ascii (h : ∀ label ∈ labels, ∀ c ∈ label, isAscii c = true) :
    directionsFit labels = true := by
  have hnone : labels.any (·.any isRightToLeft) = false := by
    rw [List.any_eq_false]
    intro label hlabel
    rw [Bool.not_eq_true, List.any_eq_false]
    intro c hc
    rw [isRightToLeft_ascii (h label hlabel c hc)]
    exact Bool.false_ne_true
  rw [directionsFit, hnone]
  rfl

theorem isPlain_join (hvalid : ∀ label ∈ labels, isValid label = true) {c : Char}
    (hc : c ∈ Text.join "." (labels.map labelToAscii)) : IsPlain c := by
  rcases Text.mem_join hc with rfl | ⟨written, hwritten, hc⟩
  · exact ⟨rfl, rfl⟩
  · obtain ⟨label, hlabel, rfl⟩ := List.mem_map.mp hwritten
    exact (mem_labelToAscii (hvalid label hlabel) hc).1

theorem labels_join (hne : labels ≠ []) (hvalid : ∀ label ∈ labels, isValid label = true) :
    ∃ name, normalForm? (Text.join "." (labels.map labelToAscii)) = some name ∧
      (Text.splitAll '.' name).mapM label? = some labels := by
  refine ⟨_, normalForm?_plain fun c hc => isPlain_join hvalid hc, ?_⟩
  have hpoint : ∀ written ∈ labels.map labelToAscii, '.' ∉ written := by
    intro written hwritten hmem
    obtain ⟨label, hlabel, rfl⟩ := List.mem_map.mp hwritten
    exact (mem_labelToAscii (hvalid label hlabel) hmem).2 rfl
  have hsplit : Text.splitAll '.' (Text.join "." (labels.map labelToAscii)) =
      labels.map labelToAscii := splitAll_join (by simpa using hne) hpoint
  rw [hsplit, List.mapM_map]
  exact mapM_of_some_self fun label hlabel => label?_labelToAscii (hvalid label hlabel)

theorem toAscii?_join (hne : labels ≠ []) (hvalid : ∀ label ∈ labels, isValid label = true) :
    toAscii? (Text.join "." (labels.map labelToAscii)) =
      if directionsFit labels && !(Text.join "." (labels.map labelToAscii)).isEmpty &&
          !(Text.join "." (labels.map labelToAscii)).any isForbidden then
        some (Text.join "." (labels.map labelToAscii))
      else none := by
  obtain ⟨name, hname, hlabels⟩ := labels_join hne hvalid
  rw [toAscii?, hname, Option.bind_eq_bind, Option.bind_some, hlabels]
  rfl

theorem exists_labels {name ascii : Text} (h : toAscii? name = some ascii) :
    ∃ labels, labels ≠ [] ∧ (∀ label ∈ labels, isValid label = true) ∧
      ascii = Text.join "." (labels.map labelToAscii) ∧
        (directionsFit labels && !ascii.isEmpty && !ascii.any isForbidden) = true := by
  obtain ⟨normal, -, h⟩ := Option.bind_eq_some_iff.mp h
  obtain ⟨labels, hlabels, h⟩ := Option.bind_eq_some_iff.mp h
  dsimp only at h
  split at h
  · rename_i hfit
    obtain rfl := Option.some.inj h
    refine ⟨labels, ?_, ?_, rfl, hfit⟩
    · rintro rfl
      have hlength := length_of_mapM_some hlabels
      exact Text.splitAll_ne_nil '.' normal (List.eq_nil_of_length_eq_zero hlength.symm)
    · intro label hlabel
      obtain ⟨written, -, hread⟩ := mem_of_mapM_some hlabels hlabel
      exact isValid_of_label? hread
  · cases h

/-- The ASCII form of a name is its own ASCII form. -/
theorem toAscii?_ascii {name ascii : Text} (h : toAscii? name = some ascii) :
    toAscii? ascii = some ascii := by
  obtain ⟨labels, hne, hvalid, rfl, hfit⟩ := exists_labels h
  rw [toAscii?_join hne hvalid, if_pos hfit]

theorem isPlain_ascii {name ascii : Text} (h : toAscii? name = some ascii) {c : Char}
    (hc : c ∈ ascii) : IsPlain c ∧ isForbidden c = false := by
  obtain ⟨labels, -, hvalid, rfl, hfit⟩ := exists_labels h
  rw [Bool.and_eq_true, Bool.not_eq_true', List.any_eq_false] at hfit
  exact ⟨isPlain_join hvalid hc, Bool.eq_false_iff.mpr (hfit.2 c hc)⟩

theorem ascii_ne_nil {name ascii : Text} (h : toAscii? name = some ascii) : ascii ≠ [] := by
  obtain ⟨labels, -, -, -, hfit⟩ := exists_labels h
  rintro rfl
  simp at hfit

theorem toAscii?_plain (hne : Text.join "." labels ≠ [])
    (hlabels : ∀ label ∈ labels, Text.dropStart? asciiMark label = none ∧
      ∀ c ∈ label, IsPlain c ∧ c ≠ '.' ∧ isForbidden c = false) :
    toAscii? (Text.join "." labels) = some (Text.join "." labels) := by
  have hsome : labels ≠ [] := by
    rintro rfl
    exact hne rfl
  have hvalid : ∀ label ∈ labels, isValid label = true := by
    intro label hlabel
    obtain ⟨hmark, hchars⟩ := hlabels label hlabel
    exact isValid_plain (fun c hc => (hchars c hc).1) (fun hmem => (hchars '.' hmem).2.1 rfl) hmark
  have hwritten : labels.map labelToAscii = labels := by
    refine (List.map_congr_left fun label hlabel => ?_).trans (List.map_id labels)
    exact if_pos (List.all_eq_true.mpr fun c hc => ((hlabels label hlabel).2 c hc).1.1)
  have hfit : directionsFit labels = true :=
    directionsFit_ascii fun label hlabel c hc => ((hlabels label hlabel).2 c hc).1.1
  have hallowed : (Text.join "." labels).any isForbidden = false := by
    rw [List.any_eq_false]
    intro c hc
    rcases Text.mem_join hc with rfl | ⟨label, hlabel, hc⟩
    · decide
    · exact Bool.eq_false_iff.mp ((hlabels label hlabel).2 c hc).2.2
  have hname := toAscii?_join hsome hvalid
  rw [hwritten, hfit, hallowed, List.isEmpty_eq_false_iff.mpr hne] at hname
  exact hname

end Domain

end Scenarist

import Scenarist.Proofs.Draft.Header
import Scenarist.Proofs.Recording.Lines
import Scenarist.Proofs.Step.Stripped
import Scenarist.Proofs.Text.Lines

/-! # Transcripts of lines

A transcript depends on the entries of its recording alone, and of these only on the ones that yield
steps. It grows with every line, and nothing that was written is taken back.
-/

namespace Scenarist

/-! ## Recording entries -/

namespace Draft

theorem recordAll_append (d : Draft) (as bs : List Entry) :
    d.recordAll (as ++ bs) =
      (((d.recordAll as).1.recordAll bs).1,
        (d.recordAll as).2 ++ ((d.recordAll as).1.recordAll bs).2) := by
  induction as generalizing d with
  | nil => rfl
  | cons e as ih =>
    rw [List.cons_append, recordAll, recordAll]
    simp only [ih, List.append_assoc]

/-- Entries that are passed over may as well be left out. -/
theorem recordAll_filter {d : Draft} (htitled : d.phase ≠ .untitled) (es : List Entry) :
    d.recordAll (es.filter fun e => !e.isPassedOver) = d.recordAll es := by
  induction es generalizing d with
  | nil => rfl
  | cons e es ih =>
    cases he : e.isPassedOver with
    | true =>
      rw [List.filter_cons_of_neg (by simp [he]), ih htitled, recordAll,
        record_passedOver htitled he]
      rfl
    | false =>
      obtain ⟨s, -, hrecord⟩ := record_retained htitled he
      have htitled' : (d.record e).1.phase ≠ .untitled := by
        rw [hrecord]
        exact append_titled _ s
      rw [List.filter_cons_of_pos (by simp [he]), recordAll, recordAll]
      simp only [ih htitled']

theorem Told.recordAll {debug : Bool} {h : Heading} {es : List Entry} {d : Draft}
    (hd : Told debug h es d) (fs : List Entry) :
    Told debug h (es ++ fs.filter fun e => !e.isPassedOver) (d.recordAll fs).1 := by
  induction fs generalizing d es with
  | nil =>
    rw [List.filter_nil, List.append_nil]
    exact hd
  | cons f fs ih =>
    cases hf : f.isPassedOver with
    | true =>
      rw [List.filter_cons_of_neg (by simp [hf]), Draft.recordAll, record_passedOver hd.titled hf]
      exact ih hd
    | false =>
      rw [List.filter_cons_of_pos (by simp [hf]), List.append_cons]
      exact ih (hd.retain hf)

end Draft

/-! ## Steps that only carry -/

/-- The entry could not be read as an action. -/
def Entry.isUnsupported (e : Entry) : Bool :=
  match e.action with
  | .unsupported _ _ => true
  | .known _ => false

theorem Step.isUnsupported_of_ofEntry? {base : Option Text} {debug : Bool} {e : Entry} {s : Step}
    (h : ofEntry? base debug e = some s) : Transcript.isUnsupported s = e.isUnsupported := by
  obtain ⟨frame, action⟩ := e
  cases action with
  | unsupported name payload =>
    obtain rfl := Option.some.inj h
    rfl
  | known action =>
    obtain ⟨t, hdeed, rfl⟩ := Option.map_eq_some_iff.mp h
    unfold Transcript.isUnsupported
    split
    · rename_i name hname
      exact absurd hname (action_ofDeed? hdeed name)
    · rfl

theorem Entry.isPassedOver_of_isUnsupported {e : Entry} (h : e.isUnsupported = true) :
    e.isPassedOver = false := by
  obtain ⟨frame, action⟩ := e
  cases action with
  | unsupported name payload => rfl
  | known action => cases h

/-! ## Lines -/

namespace Recording

/-- The line holds an entry that is passed over. -/
def isPassedOverLine (line : Text) : Bool := (entryOf? line).any Entry.isPassedOver

/-- The line holds an entry that could not be read as an action. -/
def isUnsupportedLine (line : Text) : Bool := (entryOf? line).any Entry.isUnsupported

def leavesTrace (line : Text) : Bool :=
  !(isBlankLine line || isFaultyLine line || isPassedOverLine line)

theorem entriesOf_filter (ls : List Text) :
    entriesOf (ls.filter leavesTrace) = (entriesOf ls).filter fun e => !e.isPassedOver := by
  unfold entriesOf
  rw [List.filterMap_filter, List.filter_filterMap]
  congr 1
  funext line
  unfold leavesTrace isPassedOverLine isFaultyLine
  cases hblank : isBlankLine line with
  | true => simp [entryOf?, hblank]
  | false => cases entryOf? line <;> simp [Option.filter]

theorem length_entriesOf (ls : List Text) :
    (entriesOf ls).length + ls.countP isFaultyLine = ls.countP fun line => !isBlankLine line := by
  have hentry : ls.countP (fun line => (entryOf? line).isSome) = ls.countP fun line =>
    !isBlankLine line && (entryOf? line).isSome := by
    congr 1
    funext line
    cases hblank : isBlankLine line with
    | true => simp [entryOf?, hblank]
    | false => simp
  have hfaulty : ls.countP isFaultyLine = ls.countP fun line =>
    !isBlankLine line && !(entryOf? line).isSome := by
    congr 1
    funext line
    simp [isFaultyLine]
  have hsplit := List.countP_eq_countP_filter_add ls (fun line => !isBlankLine line) fun line =>
    (entryOf? line).isSome
  rw [List.countP_filter, List.countP_filter] at hsplit
  rw [entriesOf, List.length_filterMap_eq_countP, hentry, hfaulty, hsplit]

theorem countP_entriesOf (p : Entry → Bool) (ls : List Text) :
    (entriesOf ls).countP p = ls.countP fun line => (entryOf? line).any p := by
  unfold entriesOf
  rw [List.countP_filterMap]
  congr 1
  funext line
  cases entryOf? line <;> rfl

end Recording

/-! ## The transcript -/

namespace Transcript

open Recording

theorem document_eq (h : Heading) (debug : Bool) (t : Text) :
    (ofRecording h debug t).document =
      (((Draft.start debug).entitle h).recordAll (entriesOf (Text.lines t))).2 := by
  rw [← entries_outcomes 1]
  rfl

theorem told (h : Heading) (debug : Bool) (t : Text) :
    Draft.Told debug h ((entriesOf (Text.lines t)).filter fun e => !e.isPassedOver)
      (((Draft.start debug).entitle h).recordAll (entriesOf (Text.lines t))).1 :=
  (Draft.Told.entitle (Draft.start debug) h).recordAll _

theorem steps_eq (h : Heading) (debug : Bool) (t : Text) :
    (ofRecording h debug t).draft.steps =
      (((Draft.start debug).entitle h).recordAll (entriesOf (Text.lines t))).1.steps := by
  rw [← entries_outcomes 1]
  rfl

theorem document_congr (h : Heading) (debug : Bool) {t u : Text}
    (hlines : Text.lines u = (Text.lines t).filter leavesTrace) :
    (ofRecording h debug u).document = (ofRecording h debug t).document := by
  rw [document_eq, document_eq, hlines, entriesOf_filter, Draft.recordAll_filter]
  simp [Draft.entitle]

theorem document_prefix (h : Heading) (debug : Bool) {t u : Text}
    (hlines : Text.lines u <+: Text.lines t) :
    (ofRecording h debug u).document <+: (ofRecording h debug t).document := by
  obtain ⟨rest, hrest⟩ := hlines
  have hentries : entriesOf (Text.lines t) = entriesOf (Text.lines u) ++ entriesOf rest := by
    rw [← hrest]
    exact List.filterMap_append
  rw [document_eq, document_eq, hentries, Draft.recordAll_append]
  exact List.prefix_append _ _

theorem stepCount_add (h : Heading) (debug : Bool) (t : Text) :
    (ofRecording h debug t).stepCount + (Text.lines t).countP isPassedOverLine =
      (entriesOf (Text.lines t)).length := by
  have hlength := (told h debug t).steps.length_eq
  rw [stepCount, steps_eq, ← hlength, ← List.countP_eq_length_filter]
  have hcount := countP_entriesOf Entry.isPassedOver (Text.lines t)
  have hsplit := List.length_eq_countP_add_countP Entry.isPassedOver (l := entriesOf (Text.lines t))
  simp only [Bool.not_eq_true, Bool.decide_eq_false] at hsplit
  unfold isPassedOverLine
  omega

theorem unsupportedCount_eq (h : Heading) (debug : Bool) (t : Text) :
    (ofRecording h debug t).unsupportedCount = (Text.lines t).countP isUnsupportedLine := by
  have hsame (base : Option Text) (e : Entry) (s : Step) (hes : Draft.Gives base debug e s) :
      e.isUnsupported = true ↔ isUnsupported s = true := by
    rw [Step.isUnsupported_of_ofEntry? hes.1]
  have hlength := (List.rel_filter (hsame _) (told h debug t).steps).length_eq
  rw [← List.countP_eq_length_filter, List.countP_filter] at hlength
  rw [unsupportedCount, steps_eq, ← hlength]
  unfold isUnsupportedLine
  rw [← countP_entriesOf]
  apply List.countP_congr
  intro e _
  cases he : e.isUnsupported with
  | true => simp [Entry.isPassedOver_of_isUnsupported he]
  | false => simp

/-- Lines that are blank or at fault, and those that are passed over, leave no trace in the
document, and what is written of the first lines is the beginning of it. The counts are those of the
lines. The whole recording is read as the same entries if no line is at fault, and else the first
such line is blamed. -/
theorem transcript_of_lines (h : Heading) (debug : Bool) (t : Text) :
    let made := ofRecording h debug t
    let ls := Text.lines t
    let kept := Text.ofLines (ls.filter leavesTrace)
    let begun := fun n => Text.ofLines (ls.take n)
    (Text.lines kept = ls.filter leavesTrace ∧
      (ofRecording h debug kept).document = made.document) ∧
    (∀ n, Text.lines (begun n) = ls.take n ∧
      (ofRecording h debug (begun n)).document <+: made.document) ∧
    made.entries + made.skipped.length = ls.countP (fun line => !isBlankLine line) ∧
    made.stepCount + ls.countP isPassedOverLine = made.entries ∧
    made.unsupportedCount = made.draft.steps.countP isUnsupported ∧
    made.unsupportedCount = ls.countP isUnsupportedLine ∧
    made.document = (((Draft.start debug).entitle h).recordAll (entriesOf ls)).2 ∧
    (∀ es, Recording.read t = .ok es ↔ made.skipped = [] ∧ es = entriesOf ls) ∧
    ∀ f, Recording.read t = .error f ↔ Blames 1 ls f := by
  intro made ls kept begun
  have hentries : made.entries = (entriesOf ls).length :=
    congrArg List.length (entries_outcomes 1 ls)
  have hskipped : made.skipped = faultsFrom 1 ls := rfl
  have hlines {part : List Text} (hpart : part ⊆ ls) : Text.lines (Text.ofLines part) = part :=
    Text.lines_ofLines fun line hline => Text.feed_not_mem (hpart hline)
  refine ⟨?_, fun n => ?_, ?_, ?_, ?_, unsupportedCount_eq h debug t, document_eq h debug t, ?_, ?_⟩
  · have hkept : Text.lines kept = ls.filter leavesTrace := hlines (List.filter_subset_self ls)
    exact ⟨hkept, document_congr h debug hkept⟩
  · have hbegun := hlines (List.take_subset n ls)
    refine ⟨hbegun, document_prefix h debug ?_⟩
    rw [hbegun]
    exact List.take_prefix n ls
  · rw [hentries, hskipped, length_faultsFrom, length_entriesOf]
  · rw [hentries]
    exact stepCount_add h debug t
  · exact List.countP_eq_length_filter.symm
  · intro es
    rw [hskipped]
    exact read_eq_ok_iff t es
  · exact read_eq_error_iff t

end Transcript

end Scenarist

import Scenarist.Draft.Basic
import Scenarist.Recording.Line

/-! # Transcripts

A transcript is the document of a whole recording. Lines that are no entries are passed over and
counted.
-/

namespace Scenarist

structure Transcript where
  draft : Draft
  document : Text
  /-- How many entries there were. -/
  entries : Nat
  /-- The lines that are no entries. -/
  skipped : List Recording.Fault

namespace Transcript

/-- The line that an outcome blames. -/
def faultOf? : Except Recording.Fault Entry → Option Recording.Fault
  | .error fault => some fault
  | .ok _ => none

/-- The transcript of a recording. -/
def ofRecording (h : Heading) (debug : Bool) (t : Text) : Transcript :=
  let lines := Recording.readLines t
  let entries := lines.filterMap Except.toOption
  let (draft, document) := ((Draft.start debug).entitle h).recordAll entries
  ⟨draft.close, document, entries.length, lines.filterMap faultOf?⟩

/-- How many steps there are. -/
def stepCount (t : Transcript) : Nat := t.draft.steps.length

def isUnsupported (s : Step) : Bool :=
  match s.action with
  | .unsupported _ => true
  | _ => false

/-- How many steps only carry what was recorded. -/
def unsupportedCount (t : Transcript) : Nat := (t.draft.steps.filter isUnsupported).length

end Transcript

end Scenarist

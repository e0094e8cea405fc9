import Scenarist.Scenario.Document
import Scenarist.Step.Recorded

/-! # Drafts

A draft is a scenario that grows by the entries of a recording. Each entry gives a piece of the
document: the item of its step, behind the header when it is the first one. A base that is not
given is the origin of the address to which the first step goes.
-/

namespace Scenarist

/-- What is known of a scenario before its steps. -/
structure Heading where
  base : Option Text
  name : Option Text
deriving DecidableEq

inductive Phase where
  /-- No heading was given. -/
  | untitled
  /-- There is no step. -/
  | titled
  | written
  /-- The document is at its end. -/
  | closed
deriving DecidableEq

structure Draft where
  debug : Bool
  phase : Phase
  base : Option Text
  name : Option Text
  /-- The header of the document was written. -/
  headed : Bool
  steps : List Step
deriving DecidableEq

namespace Draft

def start (debug : Bool) : Draft := ⟨debug, .untitled, none, none, false, []⟩

/-- The name of a scenario about nothing in particular. -/
def defaultName : Text := "recorded scenario"

/-- Begins anew under a heading. A scenario is named for the host of its base unless it has a
name. -/
def entitle (h : Heading) (d : Draft) : Draft :=
  { d with
    phase := .titled
    base := h.base
    name := h.name.or (h.base.bind Url.hostOf?)
    headed := false
    steps := [] }

/-- The scenario so far without its steps. -/
def heading (d : Draft) : Scenario :=
  .ofHeading ((d.name.or (d.base.bind Url.hostOf?)).getD defaultName) d.base

/-- The scenario so far. -/
def scenario (d : Draft) : Scenario := { d.heading with steps := d.steps }

/-- The address to which an entry goes. -/
def addressOf? (e : Entry) : Option Text :=
  match e.action with
  | .known ⟨.navigate url, _⟩ => some url
  | .known ⟨.openPage url, _⟩ => some url
  | _ => none

/-- The origin that an entry gives as a base. -/
def inferredBase? (e : Entry) : Option Text :=
  ((addressOf? e).filter fun url => !Url.isTrivial url).bind Url.inferOrigin?

/-- The draft with the base that an entry gives, if it can still have one. -/
def locate (e : Entry) (d : Draft) : Draft :=
  if d.headed then d else { d with base := d.base.or (inferredBase? e) }

/-- The draft with a heading, if it had none. -/
def ensureTitled (d : Draft) : Draft :=
  if d.phase = .untitled then d.entitle ⟨none, none⟩ else d

/-- The piece of the document for one more step. -/
def piece (d : Draft) (s : Step) : Text :=
  (if d.headed then [] else d.heading.headerYaml ++ Scenario.stepsLine) ++ s.toYaml

/-- The draft with one more step. -/
def append (s : Step) (d : Draft) : Draft :=
  { d with
    phase := if d.phase = .closed then .closed else .written
    headed := true
    steps := d.steps ++ [s] }

/-- The draft after an entry, and the piece of the document for it. -/
def record (e : Entry) (d : Draft) : Draft × Text :=
  let d := (d.ensureTitled).locate e
  match Step.ofEntry? d.base d.debug e with
  | none => (d, [])
  | some s => (d.append s, d.piece s)

/-- The draft after all these entries, and the pieces of the document for them. -/
def recordAll (d : Draft) : List Entry → Draft × Text
  | [] => (d, [])
  | e :: r =>
    let (d, piece) := d.record e
    let (d, rest) := d.recordAll r
    (d, piece ++ rest)

/-- Ends the document. Nothing has to be written for that. -/
def close (d : Draft) : Draft := { d with phase := .closed }

end Draft

end Scenarist

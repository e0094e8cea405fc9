import Scenarist.Step.Basic
import Scenarist.Text.Basic

/-! # Scenarios

A scenario is a list of steps with a name and what belongs to all of them. It is valid when its
version is the one that is known, its name is not blank, and every step of the list has the fields
that its kind requires.
-/

namespace Scenarist

/-- Steps before and after those of a scenario. -/
structure Hooks where
  setup : List Step
  teardown : List Step
deriving DecidableEq

structure Scenario where
  version : Text
  name : Text
  /-- The address that those of the steps are relative to. -/
  baseUrl : Option Text
  description : Option Text
  tags : List Text
  /-- Texts by their names, in ascending order of these. -/
  vars : List (Text × Text)
  hooks : Option Hooks
  steps : List Step
deriving DecidableEq

namespace Scenario

def currentVersion : Text := "1.0"

/-- A scenario without steps. -/
def ofHeading (name : Text) (baseUrl : Option Text) : Scenario :=
  ⟨currentVersion, name, baseUrl, none, [], [], none, []⟩

/-! ## Validity -/

inductive Flaw where
  | version (found : Text)
  | emptyName
  | missingField (index : Nat) (action : StepKind) (field : Text)
deriving DecidableEq

def Flaw.message : Flaw → Text
  | .version found => "Invalid version '" ++ found ++ "', expected '1.0'"
  | .emptyName => "Scenario name cannot be empty"
  | .missingField index action field =>
    "Step " ++ Text.ofNat index ++ " ('" ++ action.tag ++ "') is missing required field '" ++
      field ++ "'"

/-- The first step from number `index` on that misses a field. -/
def stepFlaw? (index : Nat) : List Step → Option Flaw
  | [] => none
  | s :: r =>
    match s.missingField? with
    | some field => some (.missingField index s.action field)
    | none => stepFlaw? (index + 1) r

/-- The first thing that is wrong with a scenario. -/
def flaw? (s : Scenario) : Option Flaw :=
  if s.version ≠ currentVersion then some (.version s.version)
  else if Text.trim s.name = [] then some .emptyName
  else stepFlaw? 0 s.steps

end Scenario

end Scenarist

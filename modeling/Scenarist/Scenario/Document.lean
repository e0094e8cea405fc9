import Scenarist.Scenario.Basic
import Scenarist.Yaml.Block
import Scenarist.Yaml.Document
import Scenarist.Yaml.Strip

/-! # Scenario documents

A document is a header, which holds all fields but the steps, and an item for each step. Fields
that have their default are left out.
-/

namespace Scenarist

open Yaml

/-! ## Fields -/

/-- A field that is left out when it is empty. -/
def listMember {α : Type} (name : Text) (f : List α → Json) (l : List α) : List (Text × Json) :=
  if l.isEmpty then [] else [(name, f l)]

def Hooks.toJson (h : Hooks) : Json :=
  .object (listMember "setup" (Step.listJson Step.toJson) h.setup ++
    listMember "teardown" (Step.listJson Step.toJson) h.teardown)

def Hooks.ofNode? (n : Node) : Option Hooks := do
  let r ← n.record? ["setup", "teardown"]
  return ⟨← r.defaulted? "setup" [] (Node.list? Step.ofNode?),
    ← r.defaulted? "teardown" [] (Node.list? Step.ofNode?)⟩

namespace Scenario

/-- All fields but the steps. -/
def headerMembers (s : Scenario) : List (Text × Json) :=
  ("version".toList, .string s.version) :: ("name".toList, .string s.name) ::
    ("baseURL".toList, .orNull .string s.baseUrl) ::
    ("description".toList, .orNull .string s.description) ::
    (listMember "tags" (Step.listJson .string) s.tags ++
      listMember "vars" (fun vars => .object (vars.map fun (k, v) => (k, .string v))) s.vars ++
      [("hooks".toList, .orNull Hooks.toJson s.hooks)])

def toJson (s : Scenario) : Json :=
  .object (s.headerMembers ++ [("steps".toList, Step.listJson Step.toJson s.steps)])

def fieldNames : List Text :=
  ["version", "name", "baseURL", "description", "tags", "vars", "hooks", "steps"].map String.toList

def ofNode? (n : Node) : Option Scenario := do
  let r ← n.record? fieldNames
  return {
    version := ← r.required? "version" Node.text?
    name := ← r.required? "name" Node.text?
    baseUrl := ← r.optional? "baseURL" true Node.text?
    description := ← r.optional? "description" true Node.text?
    tags := ← r.defaulted? "tags" [] (Node.list? Node.text?)
    vars := ← r.defaulted? "vars" [] Node.textMap?
    hooks := ← r.optional? "hooks" true Hooks.ofNode?
    steps := ← r.defaulted? "steps" [] (Node.list? Step.ofNode?) }

end Scenario

/-! ## Writing -/

/-- The item of a step in the list of steps. -/
def Step.toYaml (s : Step) : Text := blockItem 2 (strip (.ofJson s.toJson))

namespace Scenario

/-- The lines before the steps. -/
def headerYaml (s : Scenario) : Text := block 0 (strip (.ofJson (.object s.headerMembers)))

/-- The line before the first step. -/
def stepsLine : Text := "steps:\n"

def toYaml (s : Scenario) : Text :=
  s.headerYaml ++
    if s.steps = [] then "steps: []\n".toList else stepsLine ++ s.steps.flatMap Step.toYaml

/-! ## Reading -/

/-- Why a text is no valid scenario. -/
inductive Fault where
  | unreadable
  | flawed (flaw : Flaw)

def Fault.message : Fault → Text
  | .unreadable => "Failed to parse YAML"
  | .flawed flaw => flaw.message

/-- The valid scenario that a document writes. -/
def ofYaml (t : Text) : Except Fault Scenario :=
  match (Node.read? t).bind ofNode? with
  | none => .error .unreadable
  | some s =>
    match s.flaw? with
    | some flaw => .error (.flawed flaw)
    | none => .ok s

end Scenario

end Scenarist

import Scenarist.Proofs.Yaml.Strip
import Scenarist.Proofs.Yaml.Written
import Scenarist.Scenario.Document

/-! # The layout of scenarios

The document of a scenario, which is put together from its header and its steps, is the block of one
value. The header is the block of what this value is without the steps.
-/

namespace Scenarist

open Yaml

theorem Yaml.blockItems_append (k : Nat) (a b : List Tree) :
    blockItems k (a ++ b) = blockItems k a ++ blockItems k b := by
  induction a with
  | nil => rfl
  | cons v r ih =>
      rw [List.cons_append, blockItems_cons, blockItems_cons, ih, List.append_assoc,
      List.append_assoc]

theorem Yaml.blockEntries_append (k : Nat) (a b : List (Tree × Tree)) :
    blockEntries k (a ++ b) = blockEntries k a ++ blockEntries k b := by
  induction a with
  | nil => rfl
  | cons m r ih =>
    rw [List.cons_append, blockEntries_cons, blockEntries_cons, ih, List.append_assoc,
      List.append_assoc]

/-- A mapping without the entries of this key. -/
def Yaml.Tree.without (key : Text) : Tree → Tree
  | .mapping entries => .mapping (entries.filter fun e => e.1 ≠ .string key)
  | v => v

namespace Scenario

/-! ## The header -/

def headerNames : List Text :=
  ["version", "name", "baseURL", "description", "tags", "vars", "hooks"].map String.toList

theorem mem_headerNames {s : Scenario} {m : Text × Json} (h : m ∈ s.headerMembers) :
    m.1 ∈ headerNames := by
  have hlist {α : Type} {name : Text} {f : List α → Json} {l : List α} (hname : name ∈ headerNames)
      (hm : m ∈ listMember name f l) : m.1 ∈ headerNames := by
    unfold listMember at hm
    split at hm
    · exact absurd hm List.not_mem_nil
    · rwa [List.mem_singleton.mp hm]
  have hall : ∀ name ∈
      ["version", "name", "baseURL", "description", "tags", "vars", "hooks"].map String.toList,
      name ∈ headerNames := fun _ => id
  simp only [List.map_cons, List.map_nil, List.forall_mem_cons] at hall
  obtain ⟨hversion, hname, hbase, hdescription, htags, hvars, hhooks, -⟩ := hall
  simp only [headerMembers, List.mem_cons, List.mem_append, List.not_mem_nil, or_false] at h
  rcases h with rfl | rfl | rfl | rfl | (h | h) | rfl
  · exact hversion
  · exact hname
  · exact hbase
  · exact hdescription
  · exact hlist htags h
  · exact hlist hvars h
  · exact hhooks

theorem stripMembers_header (s : Scenario) :
    ∃ m r, Json.stripMembers s.headerMembers = m :: r :=
  ⟨_, _, rfl⟩

theorem stripMembers_toJson (s : Scenario) :
    s.toJson.strip = .object (Json.stripMembers s.headerMembers ++
      [("steps".toList, .array (s.steps.map fun t => t.toJson.strip))]) := by
  rw [toJson, Json.strip, Json.stripMembers_eq, List.filterMap_append, ← Json.stripMembers_eq]
  congr 2
  simp only [Step.listJson, List.filterMap_cons, List.filterMap_nil]
  rw [Json.keep?_ordinary (by decide) (by simp)]
  simp [Json.strip, Json.stripItems_eq]

theorem headerYaml_eq (s : Scenario) :
    s.headerYaml = blockEntries 0 (Tree.ofJsonMembers (Json.stripMembers s.headerMembers)) := by
  obtain ⟨m, r, heq⟩ := s.stripMembers_header
  rw [headerYaml, Json.strip_ofJson, Json.strip, Tree.ofJson, block, if_neg]
  rw [heq, Tree.ofJsonMembers]
  simp

theorem without_steps (s : Scenario) :
    (strip (.ofJson s.toJson)).without "steps" = strip (.ofJson (.object s.headerMembers)) := by
  have hkept : ∀ e ∈ Tree.ofJsonMembers (Json.stripMembers s.headerMembers),
      e.1 ≠ .string "steps".toList := by
    intro e he
    rw [Tree.ofJsonMembers_eq, List.mem_map] at he
    obtain ⟨m, hm, rfl⟩ := he
    obtain ⟨v, hv, -⟩ := Json.mem_stripMembers hm
    intro hkey
    have hname := mem_headerNames hv
    rw [Tree.string.inj hkey] at hname
    exact absurd hname (by decide)
  rw [Json.strip_ofJson, Json.strip_ofJson, stripMembers_toJson, Json.strip, Tree.ofJson,
    Tree.ofJson, Tree.without,
    Tree.ofJsonMembers_eq, List.map_append, ← Tree.ofJsonMembers_eq, List.filter_append,
    List.filter_eq_self.mpr fun e he => by simpa using hkept e he]
  simp

/-! ## The document -/

theorem stepsYaml_eq (steps : List Step) :
    steps.flatMap Step.toYaml = blockItems 2 (steps.map fun t => Tree.ofJson t.toJson.strip) := by
  induction steps with
  | nil => rfl
  | cons t r ih =>
    rw [List.flatMap_cons, ih, List.map_cons, ← List.singleton_append, blockItems_append,
      Step.toYaml, blockItem, Json.strip_ofJson]

/-- The document of a scenario is the block of what it is without defaults. -/
theorem toYaml_eq_block (s : Scenario) : s.toYaml = block 0 (.ofJson s.toJson.strip) := by
  rw [stripMembers_toJson, Tree.ofJson, Tree.ofJsonMembers_eq, List.map_append,
    ← Tree.ofJsonMembers_eq, block, if_neg (by simp), blockEntries_append, ← headerYaml_eq, toYaml]
  congr 1
  rw [stepsYaml_eq]
  simp only [List.map_cons, List.map_nil, Tree.ofJson, Tree.ofJsonItems_eq, List.map_map]
  cases hsteps : s.steps with
  | nil => rfl
  | cons t r =>
    have hblock :
        isBlock (.sequence ((t :: r).map (Tree.ofJson ∘ fun t => t.toJson.strip))) = true := rfl
    have hkey : keyText (.string "steps".toList) = "steps".toList := by decide
    rw [if_neg (List.cons_ne_nil t r), blockEntries_cons, entryText, valueText, if_pos hblock,
      block, if_neg (by simp), hkey]
    have hline : stepsLine = "steps:\n".toList := rfl
    simp [hline, pad, Text.repeated, blockEntries, Function.comp_def]

/-- The document that is put together from the header and the steps is the block of what the whole
scenario is without defaults, and the header is the block of what this is without its steps. -/
theorem toYaml_eq_whole (s : Scenario) :
    s.headerYaml = block 0 ((strip (.ofJson s.toJson)).without "steps") ∧
      s.toYaml = block 0 (strip (.ofJson s.toJson)) := by
  refine ⟨?_, ?_⟩
  · rw [without_steps, headerYaml]
  · rw [toYaml_eq_block, Json.strip_ofJson]

end Scenario

end Scenarist

import Scenarist.Json.Writer
import Scenarist.Selector.Document
import Scenarist.Selector.Recorded
import Scenarist.Yaml.Block
import Scenarist.Yaml.Strip

/-! # Showing selectors

A selector, or what came of a recorded one, as a text of its own without defaults.
-/

namespace Scenarist

open Yaml

/-- A value without defaults in block layout. -/
def strippedYaml (v : Json) : Text := block 0 (strip (.ofJson v))

/-- A value without defaults as JSON over several lines. -/
def strippedJson (v : Json) : Text := (strip (.ofJson v)).toJson.pretty 0 ++ ['\n']

namespace Selector

/-- The selector of a recorded text with what was noticed on the way to it. -/
def report (raw : Text) : Json :=
  .object [("selector", (ofRecorded (some raw)).toJson),
    ("warnings", .array ((warningsOf (some raw)).map fun w => .string w.message)),
    ("base_index", .orNull (fun n => .orNull .number (Number.ofInt? n)) (baseOf? (some raw)))]

/-- What the selector is about, in a few words. -/
def summary (s : Selector) : Text :=
  ((s.element.map Element.kind).getD "unknown") ++ " element" ++
    match s.nth with
    | some n => ", match " ++ Text.ofInt n.toInt
    | none => []

end Selector

end Scenarist

import Scenarist.Cli.Settings

/-! # Status lines

What the program tells beside its output, a line each. When it is quiet, only failures are told.
-/

namespace Scenarist

inductive Status where
  | success (message : Text)
  | failure (message : Text)
  | warning (message : Text)
  | info (message : Text)
deriving DecidableEq

namespace Status

def symbol : Status → Text
  | .success _ => "✓"
  | .failure _ => "✗"
  | .warning _ => "⚠"
  | .info _ => "ℹ"

def word : Status → Text
  | .success _ => "OK"
  | .failure _ => "FAIL"
  | .warning _ => "WARN"
  | .info _ => "INFO"

def message : Status → Text
  | .success m => m
  | .failure m => m
  | .warning m => m
  | .info m => m

def isFailure : Status → Bool
  | .failure _ => true
  | _ => false

/-- The line of a status behind a symbol or a word. -/
def line (symbols : Bool) (s : Status) : Text :=
  (if symbols then s.symbol else s.word) ++ ' ' :: s.message ++ ['\n']

/-- The lines that are told. -/
def lines (settings : Settings) (terminal : Bool) (all : List Status) : Text :=
  (all.filter fun s => s.isFailure || !settings.verbosity.isQuiet).flatMap
    (line (settings.color.shows terminal))

end Status

end Scenarist

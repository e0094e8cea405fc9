import Scenarist.Text.Basic

/-! # Settings

How much the program tells of its work, and in which form.
-/

namespace Scenarist

inductive Verbosity where
  | quiet
  | normal
  | verbose
  | debug
deriving DecidableEq

namespace Verbosity

/-- To be quiet counts more than to be verbose, however often that is asked for. -/
def ofFlags (quiet : Bool) (verbose : Nat) : Verbosity :=
  if quiet then .quiet
  else match verbose with
    | 0 => .normal
    | 1 => .verbose
    | _ => .debug

def isQuiet (v : Verbosity) : Bool := v == .quiet

def isVerbose (v : Verbosity) : Bool := v == .verbose || v == .debug

def isDebug (v : Verbosity) : Bool := v == .debug

/-- The least severe messages that are logged. -/
def logFilter : Verbosity → Text
  | .quiet => "error"
  | .normal => "warn"
  | .verbose => "info"
  | .debug => "debug"

end Verbosity

inductive ColorChoice where
  | auto
  | always
  | never
deriving DecidableEq

namespace ColorChoice

def all : List ColorChoice := [.auto, .always, .never]

def name : ColorChoice → Text
  | .auto => "auto"
  | .always => "always"
  | .never => "never"

def ofName? (t : Text) : Option ColorChoice := all.find? fun c => c.name == t

/-- Whether symbols stand for words, when messages go to a terminal or not. -/
def shows (terminal : Bool) : ColorChoice → Bool
  | .auto => terminal
  | .always => true
  | .never => false

end ColorChoice

structure Settings where
  verbosity : Verbosity
  color : ColorChoice
deriving DecidableEq

end Scenarist

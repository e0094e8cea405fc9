import Scenarist.Cli.Settings

/-! # Arguments

Arguments are switches, which begin with a dash, and operands. Short switches can share a dash, a
value can follow its switch or be joined to it, and behind two dashes everything is an operand.
The switches of all commands may stand before or behind the command; behind it they count more.
-/

namespace Scenarist.Cli

/-- Why the arguments ask for nothing that could be done. -/
inductive Halt where
  | usage
  | help
  | version (command : Option Text)

/-! ## Switches -/

inductive SwitchKind where
  /-- May be there once. -/
  | flag
  /-- May be there several times. -/
  | count
  /-- Has a value. -/
  | value (accepts : Text → Bool)
  | help
  | version

structure Switch where
  name : Text
  letter : Option Char
  kind : SwitchKind

/-- What may be said: the switches, and how many operands at most. -/
structure Form where
  command : Option Text
  switches : List Switch
  maxOperands : Option Nat
  acceptsOperand : Text → Bool

/-- What was said: the names of switches with their values, the latest first, and the operands. -/
structure Said where
  switches : List (Text × Text)
  operands : List Text
  /-- A switch whose value comes next. -/
  waiting : Option Switch
  /-- Only operands follow. -/
  literal : Bool

def Said.nothing : Said := ⟨[], [], none, false⟩

/-- How often a switch was there. -/
def Said.count (s : Said) (name : Text) : Nat := s.switches.countP fun (n, _) => n == name

def Said.value? (s : Said) (name : Text) : Option Text := s.switches.lookup name

namespace Form

/-- A switch was there, with its value. -/
def give (s : Said) (switch : Switch) (value : Text) : Except Halt Said :=
  match switch.kind with
  | .count => .ok { s with switches := (switch.name, value) :: s.switches }
  | _ =>
    if s.count switch.name = 0 then
      .ok { s with switches := (switch.name, value) :: s.switches, waiting := none }
    else .error .usage

def giveValue (s : Said) (switch : Switch) (value : Text) : Except Halt Said :=
  match switch.kind with
  | .value accepts => if accepts value then give s switch value else .error .usage
  | _ => .error .usage

/-- A switch was there without a value joined to it. -/
def mark (f : Form) (s : Said) (switch : Switch) : Except Halt Said :=
  match switch.kind with
  | .value _ => .ok { s with waiting := some switch }
  | .help => .error .help
  | .version => .error (.version f.command)
  | .flag | .count => give s switch []

/-- A switch by its name, with a value behind an equals sign. -/
def readLong (f : Form) (s : Said) (body : Text) : Except Halt Said :=
  let (name, value) := match Text.splitFirst? '=' body with
    | some (name, value) => (name, some value)
    | none => (body, none)
  match f.switches.find? fun w => w.name == name, value with
  | none, _ => .error .usage
  | some switch, some v => giveValue s switch v
  | some switch, none => f.mark s switch

/-- Switches by their letters. The rest behind one with a value is its value. -/
def readLetters (f : Form) (s : Said) : Text → Except Halt Said
  | [] => .ok s
  | c :: r =>
    match f.switches.find? fun w => w.letter == some c with
    | none => .error .usage
    | some switch =>
      match switch.kind, r with
      | .value _, '=' :: v => giveValue s switch v
      | .value _, v :: vs => giveValue s switch (v :: vs)
      | _, r => do readLetters f (← f.mark s switch) r

def readOperand (f : Form) (s : Said) (operand : Text) : Except Halt Said :=
  if f.maxOperands.any (· ≤ s.operands.length) || !f.acceptsOperand operand then .error .usage
  else .ok { s with operands := s.operands ++ [operand] }

/-- The argument begins with a dash that means something. -/
def isSwitch (argument : Text) : Bool := argument.head? == some '-' && argument != ['-']

/-- One more argument. -/
def read (f : Form) (s : Said) (argument : Text) : Except Halt Said :=
  match s.waiting with
  | some switch => if isSwitch argument then .error .usage else giveValue s switch argument
  | none =>
    if s.literal || !isSwitch argument then f.readOperand s argument
    else match argument with
      | ['-', '-'] => .ok { s with literal := true }
      | '-' :: '-' :: body => f.readLong s body
      | _ => f.readLetters s (argument.drop 1)

/-- No value is missing at the end. -/
def finish (s : Said) : Except Halt Said := if s.waiting.isSome then .error .usage else .ok s

def readAll (f : Form) (arguments : List Text) : Except Halt Said := do
  finish (← arguments.foldlM f.read .nothing)

/-- What is said up to the first operand, that operand, and the arguments behind it. -/
def readUpTo (f : Form) (s : Said) : List Text → Except Halt (Said × Text × List Text)
  | [] => .error .usage
  | argument :: rest =>
    if s.waiting.isNone && !s.literal && !isSwitch argument then .ok (s, argument, rest)
    else do readUpTo f (← f.read s argument) rest

end Form

/-! ## Commands -/

inductive Layout where
  | yaml
  | json
deriving DecidableEq

structure Generate where
  /-- The recording; none for the standard input. -/
  input : Option Text
  base : Option Text
  name : Option Text
  debug : Bool
  output : Option Text

structure Describe where
  selector : Text
  layout : Layout
  debug : Bool

inductive Command where
  | generate (options : Generate)
  | selector (options : Describe)
  | check (files : List Text)

structure Invocation where
  settings : Settings
  command : Command

/-! ## Forms of the commands -/

def anyText (_ : Text) : Bool := true

/-- A path is not empty. -/
def isPath (t : Text) : Bool := !t.isEmpty

def layoutOf? (t : Text) : Option Layout :=
  if t = "yaml" then some .yaml else if t = "json" then some .json else none

/-- The switches of all commands. -/
def commonSwitches : List Switch :=
  [⟨"verbose", some 'v', .count⟩, ⟨"quiet", some 'q', .flag⟩,
    ⟨"color", none, .value fun t => (ColorChoice.ofName? t).isSome⟩,
    ⟨"help", some 'h', .help⟩, ⟨"version", some 'V', .version⟩]

def debugSwitch : Switch := ⟨"debug", none, .flag⟩

def mainForm : Form := ⟨none, commonSwitches, some 0, anyText⟩

def generateForm : Form where
  command := some "generate"
  switches := [⟨"base-url", none, .value anyText⟩, ⟨"name", none, .value anyText⟩, debugSwitch,
    ⟨"output", some 'o', .value isPath⟩] ++ commonSwitches
  maxOperands := some 1
  acceptsOperand := isPath

def selectorForm : Form where
  command := some "selector"
  switches := [⟨"format", some 'f', .value fun t => (layoutOf? t).isSome⟩, debugSwitch] ++
    commonSwitches
  maxOperands := some 1
  acceptsOperand := anyText

def checkForm : Form where
  command := some "check"
  switches := commonSwitches
  maxOperands := none
  acceptsOperand := isPath

/-! ## Reading -/

/-- Whether to debug: as a switch says, or else the environment. -/
def debugOf (environment : Option Text) (s : Said) : Except Halt Bool :=
  if s.count "debug" ≠ 0 then .ok true
  else match environment with
    | none => .ok false
    | some t => if t = "true" then .ok true else if t = "false" then .ok false else .error .usage

/-- The settings from what was said before and behind the command. -/
def settingsOf (before behind : Said) : Settings :=
  let verbose :=
    if behind.count "verbose" = 0 then before.count "verbose" else behind.count "verbose"
  let quiet := before.count "quiet" ≠ 0 || behind.count "quiet" ≠ 0
  let color := (behind.value? "color").or (before.value? "color")
  ⟨.ofFlags quiet verbose, (color.bind ColorChoice.ofName?).getD .auto⟩

def generateOf (environment : Option Text) (s : Said) : Except Halt Command := do
  return .generate {
    input := s.operands.head?.filter (· ≠ ['-'])
    base := s.value? "base-url"
    name := s.value? "name"
    debug := ← debugOf environment s
    output := s.value? "output" }

def selectorOf (environment : Option Text) (s : Said) : Except Halt Command := do
  let some selector := s.operands.head? | .error .usage
  return .selector {
    selector
    layout := ((s.value? "format").bind layoutOf?).getD .yaml
    debug := ← debugOf environment s }

def checkOf (s : Said) : Except Halt Command :=
  if s.operands.isEmpty then .error .usage else .ok (.check s.operands)

def commandNames : List Text := ["generate", "selector", "check", "help"]

/-- Help is given on the program or on one command. -/
def helpOf : List Text → Halt
  | [] => .help
  | [name] => if name.isOneOf commandNames then .help else .usage
  | _ => .usage

/-- The command of this name with the arguments behind it. -/
def commandOf (environment : Option Text) (name : Text) (arguments : List Text) :
    Except Halt (Said × Command) := do
  if name = "generate" then
    let s ← generateForm.readAll arguments
    return (s, ← generateOf environment s)
  else if name = "selector" then
    let s ← selectorForm.readAll arguments
    return (s, ← selectorOf environment s)
  else if name = "check" then
    let s ← checkForm.readAll arguments
    return (s, ← checkOf s)
  else if name = "help" then .error (helpOf arguments)
  else .error .usage

/-- What the arguments ask for, when the environment says this about debugging. -/
def readArguments (environment : Option Text) (arguments : List Text) : Except Halt Invocation := do
  let (before, name, rest) ← mainForm.readUpTo .nothing arguments
  let (behind, command) ← commandOf environment name rest
  return ⟨settingsOf before behind, command⟩

end Scenarist.Cli

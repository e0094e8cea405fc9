import Scenarist.Pattern.ClassReader
import Scenarist.Unicode.Word

/-! # Reading patterns

The parts read so far stand in the innermost group; around it stand the groups that are still open
and the branches of their alternations.
-/

namespace Scenarist.Pattern

/-- Something open around the current parts. -/
inductive Level where
  /-- An open group, with the parts before it, where these began, and whether blanks were ignored
  there. -/
  | group (before : List Ast) (start : Nat) (ignoreSpace : Bool) (span : Span)
      (flags : List FlagItem)
  /-- The branches of an alternation, the latest first. -/
  | branches (start : Nat) (done : List Ast)

/-- What was read: the current parts, the latest first, and where they begin. -/
structure Progress where
  parts : List Ast
  start : Nat
  levels : List Level
  names : List (Text × Span)
  cursor : Cursor

namespace Progress

/-- The current parts as one. -/
def concat (p : Progress) : Ast :=
  let span : Span := ⟨p.start, p.cursor.pos⟩
  match p.parts with
  | [] => .empty span
  | [e] => e
  | es => .concat span es.reverse

def add (e : Ast) (rest : Cursor) (p : Progress) : Progress :=
  { p with parts := e :: p.parts, cursor := rest }

/-! ## Groups -/

def flag? : Char → Option Flag
  | 'i' => some .caseInsensitive
  | 'm' => some .multiLine
  | 's' => some .dotAll
  | 'U' => some .swapGreed
  | 'u' => some .unicode
  | 'R' => some .returnLines
  | 'x' => some .ignoreSpace
  | _ => none

/-- The flags up to a colon or a closing bracket. `seen` holds those before, the latest first,
with their places. -/
def flagItems : (fuel : Nat) → (seen : List (FlagItem × Nat)) → Cursor →
    Except Fault (List FlagItem × Cursor)
  | 0, seen, c => .ok (seen.reverse.map (·.1), c)
  | n + 1, seen, c =>
    if c.isAt ':' || c.isAt ')' then
      match seen with
      | (.negation, pos) :: _ => fail .flagNegationDangling pos (pos + 1)
      | _ => .ok (seen.reverse.map (·.1), c)
    else
      let item? := if c.isAt '-' then some FlagItem.negation else (flag? c.char).map .flag
      match item? with
      | none => c.failHere .flagUnknown
      | some item =>
        match seen.lookup item with
        | some pos =>
          let cause := if item = .negation then .flagNegationRepeated else .flagRepeated
          .error ⟨cause, ⟨c.pos, c.pos + 1⟩, some ⟨pos, pos + 1⟩⟩
        | none =>
          if c.bump.atEnd then c.bump.failBefore .flagUnfinished
          else flagItems n ((item, c.pos) :: seen) c.bump

def isNameChar (first : Bool) (c : Char) : Bool :=
  if first then c == '_' || Unicode.isAlphabetic c
  else c == '_' || c == '.' || c == '[' || c == ']' || Unicode.isAlphanumeric c

/-- The name of a group up to its closing angle bracket. -/
def nameText : (first : Bool) → Cursor → (rest : Text) → Except Fault Text
  | _, _, [] => .ok []
  | first, c, d :: r =>
    if d = '>' then .ok []
    else if !isNameChar first d then c.failHere .groupNameCharacter
    else do return d :: (← nameText false c.bump r)

/-- A name that no group before has. -/
def groupName (names : List (Text × Span)) (c : Cursor) :
    Except Fault (List (Text × Span) × Cursor) := do
  if c.atEnd then c.failBefore .groupNameUnclosed
  else
    let name ← nameText true c c.rest
    let stop : Cursor := { c with rest := c.rest.drop name.length, pos := c.pos + name.length }
    if stop.atEnd then stop.failBefore .groupNameUnclosed
    else if name = [] then c.failBefore .groupNameEmpty
    else
      let span : Span := ⟨c.pos, stop.pos⟩
      match names.lookup name with
      | some earlier => .error ⟨.groupNameRepeated, span, some earlier⟩
      | none => return ((name, span) :: names, stop.bump)

/-- Groups that look ahead or behind. -/
def lookAround? (c : Cursor) : Option Cursor :=
  ["?=", "?!", "?<=", "?<!"].findSome? fun word => c.take? word.toList

/-- A group opens, with its parts read next. -/
def openGroup (span : Span) (flags : List FlagItem) (names : List (Text × Span)) (inner : Cursor)
    (p : Progress) : Progress :=
  let level := Level.group p.parts p.start p.cursor.ignoreSpace span flags
  let ignoreSpace := (flagState .ignoreSpace true flags).getD p.cursor.ignoreSpace
  { parts := [], start := inner.pos, levels := level :: p.levels, names
    cursor := { inner with ignoreSpace } }

/-- An opening bracket: of a group, of a group that sets flags, or of flags alone. -/
def group (p : Progress) : Except Fault Progress := do
  let c := p.cursor
  let span : Span := ⟨c.pos, c.pos + 1⟩
  let inner := c.bumpSpace
  match lookAround? inner with
  | some after => after.failSince .lookAround c.pos
  | none =>
    match (inner.take? "?P<".toList).or (inner.take? "?<".toList), inner.take? "?".toList with
    | some name, _ =>
      let (names, after) ← groupName p.names name
      return p.openGroup span [] names after
    | none, some flags =>
      if flags.atEnd then .error ⟨.groupUnclosed, span, none⟩
      else
        let (items, stop) ← flagItems (flags.rest.length + 1) [] flags
        let after := stop.bump
        if stop.isAt ')' then
          if items = [] then inner.failBefore .repetitionOfNothing
          else
            let ignoreSpace := (flagState .ignoreSpace true items).getD c.ignoreSpace
            return p.add (.flags ⟨c.pos, after.pos⟩ items) { after with ignoreSpace }
        else return p.openGroup span items p.names after
    | none, none => return p.openGroup span [] p.names inner

/-- The branches before the current parts, and what is open around them. -/
def takeBranches (p : Progress) : Option (Nat × List Ast) × List Level :=
  match p.levels with
  | .branches start done :: levels => (some (start, done), levels)
  | levels => (none, levels)

/-- The current parts with the branches before them. -/
def body (branches : Option (Nat × List Ast)) (p : Progress) : Ast :=
  match branches with
  | some (start, done) => .alternation ⟨start, p.cursor.pos⟩ (p.concat :: done).reverse
  | none => p.concat

/-- A closing bracket. -/
def closeGroup (p : Progress) : Except Fault Progress :=
  let (branches, levels) := p.takeBranches
  match levels with
  | .group before start ignoreSpace span flags :: levels =>
    let after := p.cursor.bump
    let e := Ast.group ⟨span.start, after.pos⟩ flags (p.body branches)
    .ok { p with parts := e :: before, start, levels, cursor := { after with ignoreSpace } }
  | _ => p.cursor.failHere .groupUnopened

/-- A vertical bar. -/
def branch (p : Progress) : Progress :=
  let (branches, levels) := p.takeBranches
  let (start, done) := branches.getD (p.start, [])
  let after := p.cursor.bump
  { p with parts := [], start := after.pos, cursor := after
           levels := .branches start (p.concat :: done) :: levels }

/-! ## Repetitions -/

/-- The part before a repetition sign. -/
def operand (p : Progress) : Except Fault (Ast × List Ast) :=
  match p.parts with
  | [] => p.cursor.failBefore .repetitionOfNothing
  | .empty _ :: _ | .flags _ _ :: _ => p.cursor.failBefore .repetitionOfNothing
  | e :: parts => .ok (e, parts)

/-- The place behind a question mark that asks for few repetitions. -/
def skipLazy (c : Cursor) : Cursor := if c.isAt '?' then c.bump else c

/-- The repetition of the last part. -/
def repeated (least : Nat) (most : Option Nat) (e : Ast) (parts : List Ast) (after : Cursor)
    (p : Progress) : Progress :=
  { p with parts := .repetition ⟨e.span.start, after.pos⟩ e least most :: parts, cursor := after }

/-- One of the signs for at most one, any number, or at least one. -/
def sign (least : Nat) (most : Option Nat) (p : Progress) : Except Fault Progress := do
  let (e, parts) ← p.operand
  return p.repeated least most e parts (skipLazy p.cursor.bump)

/-- The counts between braces. A fault in the lower count is only reported once more than the
end of the pattern follows. -/
def counts (start : Nat) (c : Cursor) : Except Fault ((Nat × Option Nat) × Cursor) := do
  let (least, after) := c.decimal
  if after.atEnd then after.failSince .countUnclosed start
  else if after.isAt ',' then
    let next := after.bumpSpace
    if next.atEnd then next.failSince .countUnclosed start
    else if next.isAt '\x7d' then return ((← least, none), next)
    else
      let least ← least
      let (most, stop) := next.decimal
      return ((least, some (← most)), stop)
  else
    let n ← least
    return ((n, some n), after)

/-- A repetition with counts in braces. -/
def counted (p : Progress) : Except Fault Progress := do
  let c := p.cursor
  let start := c.pos
  let (e, parts) ← p.operand
  let first := c.bumpSpace
  if first.atEnd then first.failSince .countUnclosed start
  else
    let ((least, most), stop) ← counts start first
    if !stop.isAt '\x7d' then stop.failSince .countUnclosed start
    else
      let after := skipLazy stop.bumpSpace
      if most.any (· < least) then after.failSince .countRange start
      else return p.repeated least most e parts after

/-! ## The whole pattern -/

/-- One construct at the cursor, which is not at the end. -/
def step (p : Progress) : Except Fault Progress :=
  let c := p.cursor
  match c.char with
  | '(' => p.group
  | ')' => p.closeGroup
  | '|' => .ok p.branch
  | '[' => do
    let (e, rest) ← c.bracketClass
    return p.add e rest
  | '?' => p.sign 0 (some 1)
  | '*' => p.sign 0 none
  | '+' => p.sign 1 none
  | '\x7b' => p.counted
  | _ => do
    let (e, rest) ← c.primitive
    return p.add e rest

/-- The end of the pattern. No group may be open. -/
def finish (p : Progress) : Except Fault Ast :=
  let (branches, levels) := p.takeBranches
  match levels with
  | .group _ _ _ span _ :: _ => .error ⟨.groupUnclosed, span, none⟩
  | _ => .ok (p.body branches)

/-- Reads up to the end. Every round takes a character. -/
def run : (fuel : Nat) → Progress → Except Fault Ast
  | 0, p => p.finish
  | n + 1, p =>
    let p := { p with cursor := p.cursor.skipSpace }
    if p.cursor.atEnd then p.finish
    else do run n (← p.step)

end Progress

/-- The pattern that a text writes. -/
def Ast.read (ignoreSpace : Bool) (pattern : Text) : Except Fault Ast := do
  let e ← Progress.run (pattern.length + 1) ⟨[], 0, [], [], ⟨pattern, 0, ignoreSpace⟩⟩
  match e.tooDeep? 0 with
  | some span => .error ⟨.tooDeep, span, none⟩
  | none => return e

end Scenarist.Pattern

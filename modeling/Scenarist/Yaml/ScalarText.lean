import Scenarist.Yaml.Spot

/-! # Scalars over several lines

Blanks and line breaks inside a scalar form gaps. A gap with one line break is read as a blank; of
a gap with more breaks the first is dropped. In literal blocks every break counts.
-/

namespace Scenarist.Yaml

/-- What was read since the last character that is no blank and no break. -/
inductive Gap where
  | empty
  | blanks (blanks : Text)
  /-- After the first break, which is absent when it was escaped, only further breaks count. -/
  | breaks (first : Option Char) (more : Text)

namespace Gap

def addBlank (c : Char) : Gap → Gap
  | .empty => .blanks [c]
  | .blanks t => .blanks (t ++ [c])
  | gap => gap

def addBreak (c : Char) : Gap → Gap
  | .breaks first more => .breaks first (more ++ [c])
  | _ => .breaks (some c) []

/-- The text that the gap stands for. -/
def folded : Gap → Text
  | .empty => []
  | .blanks t => t
  | .breaks none more => more
  | .breaks (some c) more => if c = '\n' then (if more = [] then [' '] else more) else c :: more

def isEmpty : Gap → Bool
  | .empty => true
  | _ => false

def hasBreak : Gap → Bool
  | .breaks _ _ => true
  | _ => false

end Gap

/-! ## Quoted scalars -/

/-- The character of an escape by its letter, or the number of digits that follow it. -/
def escapeLetter (c : Char) : Option (Char ⊕ Nat) :=
  match c with
  | '0' => some (.inl '\x00')
  | 'a' => some (.inl '\x07')
  | 'b' => some (.inl '\x08')
  | 't' | '\t' => some (.inl '\t')
  | 'n' => some (.inl '\n')
  | 'v' => some (.inl '\x0b')
  | 'f' => some (.inl '\x0c')
  | 'r' => some (.inl '\r')
  | 'e' => some (.inl '\x1b')
  | ' ' => some (.inl ' ')
  | '"' => some (.inl '"')
  | '/' => some (.inl '/')
  | '\\' => some (.inl '\\')
  | 'N' => some (.inl '\u0085')
  | '_' => some (.inl '\u00a0')
  | 'L' => some (.inl '\u2028')
  | 'P' => some (.inl '\u2029')
  | 'x' => some (.inr 2)
  | 'u' => some (.inr 4)
  | 'U' => some (.inr 8)
  | _ => none

/-- The character of an escape and the number of spots it takes behind the backslash. -/
def escape? (spots : List Spot) : Option (Char × Nat) := do
  match ← escapeLetter (charAt 0 spots) with
  | .inl c => return (c, 1)
  | .inr n =>
    let digits := (spots.drop 1).take n |>.map (·.char)
    let c ← Text.charOfNat? (← Text.toNat? 16 digits)
    if digits.length = n then return (c, n + 1) else none

/-- The text of a quoted scalar up to its closing quote and what follows it. `skip` spots belong
to an escape that was read. -/
def quotedText (single : Bool) : (skip : Nat) → Gap → List Spot → Option (Text × List Spot)
  | _, _, [] => none
  | n + 1, gap, _ :: r => quotedText single n gap r
  | 0, gap, s :: r =>
    let c := s.char
    if c = '\x00' ∨ isDocumentMark (s :: r) then none
    else if isBlank c then quotedText single 0 (gap.addBlank c) r
    else if isBreak c then quotedText single 0 (gap.addBreak c) r
    else if single then
      if c = '\'' then
        if charAt 0 r = '\'' then do
          let (t, rest) ← quotedText single 1 .empty r
          return (gap.folded ++ '\'' :: t, rest)
        else some (gap.folded, r)
      else do
        let (t, rest) ← quotedText single 0 .empty r
        return (gap.folded ++ c :: t, rest)
    else if c = '"' then some (gap.folded, r)
    else if c = '\\' then
      if isBreak (charAt 0 r) then do
        let (t, rest) ← quotedText single 1 (.breaks none []) r
        return (gap.folded ++ t, rest)
      else do
        let (d, n) ← escape? r
        let (t, rest) ← quotedText single n .empty r
        return (gap.folded ++ d :: t, rest)
    else do
      let (t, rest) ← quotedText single 0 .empty r
      return (gap.folded ++ c :: t, rest)

/-! ## Plain scalars -/

/-- The brackets and the comma of flow collections. -/
def isFlowIndicator (c : Char) : Bool :=
  c == ',' || c == '[' || c == ']' || c == '\x7b' || c == '\x7d'

/-- A plain scalar, what follows it, and whether a line break stands between the two. Inside
brackets it may not end in a colon; outside, further lines stand at `indent` or deeper. -/
def plainText (flow : Bool) (indent : Nat) : Gap → List Spot → Option (Text × Bool × List Spot)
  | _, [] => none
  | gap, s :: r =>
    let c := s.char
    let next := charAt 0 r
    if isBlank c then
      if gap.hasBreak && c == '\t' && s.column < indent then none
      else plainText flow indent (gap.addBlank c) r
    else if isBreak c then plainText flow indent (gap.addBreak c) r
    else if c = '\x00' then some ([], gap.hasBreak, s :: r)
    else if !gap.isEmpty &&
        ((!flow && s.column < indent) || isDocumentMark (s :: r) || c == '#') then
      some ([], gap.hasBreak, s :: r)
    else if flow && c == ':' && (isFlowIndicator next || next == '?') then none
    else if (c == ':' && isGap next) || (flow && isFlowIndicator c) then
      some ([], gap.hasBreak, s :: r)
    else do
      let (t, broken, rest) ← plainText flow indent .empty r
      return (gap.folded ++ c :: t, broken, rest)

/-! ## Block scalars -/

/-- What becomes of the line breaks at the end. -/
inductive Chomping where
  | strip
  | clip
  | keep
deriving DecidableEq

/-- Empty lines, the deepest column reached in them, and what follows. Lines are indented by
blanks up to `indent`, or by any number while it is zero. -/
def blankLines (indent deepest : Nat) : List Spot → Option (Text × Nat × List Spot)
  | [] => none
  | s :: r =>
    let open_ := indent == 0 || s.column < indent
    if open_ && s.char == ' ' then blankLines indent deepest r
    else
      let deepest := max deepest s.column
      if open_ && s.char == '\t' then none
      else if isBreak s.char then do
        let (t, d, rest) ← blankLines indent deepest r
        return (s.char :: t, d, rest)
      else some ([], deepest, s :: r)

/-- The characters up to a line break. -/
def lineText : List Spot → Text × List Spot
  | [] => ([], [])
  | s :: r =>
    if isBreak s.char || s.char == '\x00' then ([], s :: r)
    else
      let (t, rest) := lineText r
      (s.char :: t, rest)

/-- The break that the last line ended with, and the empty lines behind it. -/
structure Ending where
  first : Text
  more : Text

/-- The lines of a block scalar at `indent`. A break between two lines that begin with no blank
is folded, unless the block is literal. -/
def blockLines (literal : Bool) (indent : Nat) :
    (fuel : Nat) → (blankBefore : Bool) → Ending → List Spot → Option (Text × Ending × List Spot)
  | 0, _, ending, spots => some ([], ending, spots)
  | n + 1, blankBefore, ending, spots =>
    match spots with
    | [] => none
    | s :: _ =>
      if s.column ≠ indent ∨ s.char = '\x00' then some ([], ending, spots)
      else do
        let blank := isBlank s.char
        let between :=
          if !literal && ending.first == ['\n'] && !blankBefore && !blank then
            (if ending.more = [] then [' '] else []) ++ ending.more
          else ending.first ++ ending.more
        let (line, after) := lineText spots
        let (first, after) := match after with
          | b :: r => if isBreak b.char then ([b.char], r) else ([], b :: r)
          | [] => ([], [])
        let (more, _, after) ← blankLines indent 0 after
        let (t, last, rest) ← blockLines literal indent n blank ⟨first, more⟩ after
        return (between ++ line ++ t, last, rest)

/-- The marks behind the indicator: how to chomp and how far to indent, in either order. -/
def blockHeader (spots : List Spot) : Option (Chomping × Nat × List Spot) :=
  let chomping? : Char → Option Chomping
    | '+' => some .keep
    | '-' => some .strip
    | _ => none
  let digit? (c : Char) : Option Nat := if c.isDigit then Text.digitValue? c else none
  match chomping? (charAt 0 spots) with
  | some k =>
    match digit? (charAt 1 spots) with
    | some 0 => none
    | some d => some (k, d, spots.drop 2)
    | none => some (k, 0, spots.drop 1)
  | none =>
    match digit? (charAt 0 spots) with
    | some 0 => none
    | some d =>
      match chomping? (charAt 1 spots) with
      | some k => some (k, d, spots.drop 2)
      | none => some (.clip, d, spots.drop 1)
    | none => some (.clip, 0, spots)

/-- The rest of a line, when it holds nothing but blanks and a comment. -/
def blankRest? (spots : List Spot) : Option (List Spot) :=
  let rest := spots.dropWhile fun s => isBlank s.char
  let rest := if charAt 0 rest = '#' then (lineText rest).2 else rest
  match rest with
  | s :: r => if isBreak s.char then some r else if s.char = '\x00' then some rest else none
  | [] => none

/-- A block scalar behind its indicator, inside a collection at `parent`. -/
def blockText (literal : Bool) (parent : Int) (spots : List Spot) :
    Option (Text × List Spot) := do
  let (chomping, increment, rest) ← blockHeader spots
  let rest ← blankRest? rest
  let given : Nat := if increment = 0 then 0 else (max parent 0).toNat + increment
  let (more, deepest, rest) ← blankLines given 0 rest
  let indent := if given = 0 then max deepest (max (parent + 1).toNat 1) else given
  let (t, ending, rest) ← blockLines literal indent (rest.length + 1) false ⟨[], more⟩ rest
  return (t ++ (if chomping = .strip then [] else ending.first) ++
    (if chomping = .keep then ending.more else []), rest)

end Scenarist.Yaml

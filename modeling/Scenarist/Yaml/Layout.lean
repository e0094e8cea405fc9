import Scenarist.Yaml.Token

/-! # Tokens of a text

Outside brackets the column of a line decides which collections it continues, opens and closes. A
mapping opens where a key stands, but a key is only known by the colon behind it: so every token
that may be a key is remembered until its line ends, and the marks are put before it afterwards.
-/

namespace Scenarist.Yaml

/-- A token that may turn out to be a key. A key is required where a mapping stands in its
column. -/
structure Candidate where
  required : Bool
  /-- The number of tokens before it. -/
  place : Nat
  index : Nat
  line : Nat
  column : Nat

/-- The tokens so far, and what decides the meaning of the next ones. -/
structure Layout where
  /-- The latest token comes first. -/
  tokens : List Token
  /-- The columns of the open block collections, the innermost first. -/
  columns : List Nat
  /-- A key may start here. -/
  keyAllowed : Bool
  /-- The candidate outside brackets. -/
  candidate : Option Candidate
  /-- The candidates outside of each open bracket, the innermost first. -/
  outer : List (Option Candidate)

namespace Layout

def start : Layout := ⟨[], [], true, none, []⟩

def inFlow (l : Layout) : Bool := !l.outer.isEmpty

/-- The column of the innermost block collection; minus one outside of all. -/
def indent (l : Layout) : Int :=
  match l.columns with
  | c :: _ => c
  | [] => -1

def add (token : Token) (l : Layout) : Layout := { l with tokens := token :: l.tokens }

/-! ## Indentation -/

/-- The block collections to the right of `column` end. -/
def closeTo (column : Int) (l : Layout) : Layout :=
  if l.inFlow then l
  else
    let ended := l.columns.takeWhile fun (c : Nat) => column < (c : Int)
    { l with
      tokens := ended.map (fun _ => Token.blockEnd) ++ l.tokens
      columns := l.columns.drop ended.length }

/-- The tokens with `marks` behind the first `place` of them. -/
def insertAt (place : Nat) (marks : List Token) (l : Layout) : List Token :=
  let later := l.tokens.length - place
  l.tokens.take later ++ marks.reverse ++ l.tokens.drop later

/-- `column` is to the right of the innermost block collection, so one opens there. -/
def opensAt (column : Nat) (l : Layout) : Bool := !l.inFlow && l.indent < column

/-- A block collection opens at `column`, unless one stands there. -/
def openAt (column : Nat) (mark : Token) (l : Layout) : Layout :=
  if l.opensAt column then { l with tokens := mark :: l.tokens, columns := column :: l.columns }
  else l

/-! ## Keys -/

/-- A candidate is given up at the end of its line, or when it gets too long. -/
def isStale (spot : Spot) (c : Candidate) : Bool :=
  c.line < spot.line || c.index + 1024 < spot.index

/-- Gives up the candidates that are stale. One that is required may not be given up. -/
def dropStale? (spot : Spot) (l : Layout) : Option Layout :=
  let stale (c : Option Candidate) : Bool := c.any (isStale spot)
  let required (c : Option Candidate) : Bool := stale c && c.any (·.required)
  let keep (c : Option Candidate) := c.filter fun c => !isStale spot c
  if required l.candidate || l.outer.any required then none
  else some { l with candidate := keep l.candidate, outer := l.outer.map keep }

def dropCandidate? (l : Layout) : Option Layout :=
  if l.candidate.any (·.required) then none else some { l with candidate := none }

/-- The token at this spot may be a key. -/
def remember? (spot : Spot) (l : Layout) : Option Layout :=
  if l.keyAllowed then do
    let required := !l.inFlow && l.indent == spot.column
    let l ← l.dropCandidate?
    return { l with
      candidate := some ⟨required, l.tokens.length, spot.index, spot.line, spot.column⟩ }
  else some l

/-! ## One token -/

/-- Blanks, comments and line breaks before a token. After a line break a key may start, and
tabs may not stand before it. -/
def skipGap (l : Layout) : (comment : Bool) → List Spot → Layout × List Spot
  | _, [] => (l, [])
  | comment, s :: r =>
    if isBreak s.char then
      skipGap (if l.inFlow then l else { l with keyAllowed := true }) false r
    else if comment && s.char != '\x00' then skipGap l true r
    else if s.char == ' ' || (s.char == '\t' && (l.inFlow || !l.keyAllowed)) then
      skipGap l false r
    else if s.char == '#' then skipGap l true r
    else if s.char == '\ufeff' && s.index == 0 then skipGap l false r
    else (l, s :: r)

/-- Opens brackets. -/
def openFlow? (mark : Token) (spot : Spot) (l : Layout) : Option Layout := do
  let l ← l.remember? spot
  return { l with
    tokens := mark :: l.tokens, keyAllowed := true
    candidate := none, outer := l.candidate :: l.outer }

/-- Closes brackets. -/
def closeFlow? (mark : Token) (l : Layout) : Option Layout := do
  let l ← l.dropCandidate?
  let (candidate, outer) := match l.outer with
    | c :: outer => (c, outer)
    | [] => (none, [])
  return { l with tokens := mark :: l.tokens, keyAllowed := false, candidate, outer }

/-- A mark that ends all block collections. -/
def atMargin? (l : Layout) : Option Layout := do
  let l ← (l.closeTo (-1)).dropCandidate?
  return { l with keyAllowed := false }

/-- A dash or a question mark that opens an entry at `column`. -/
def openEntry? (column : Nat) (collection mark : Token) (l : Layout) : Option Layout := do
  if !l.inFlow && !l.keyAllowed then none
  else
    let l ← (l.openAt column collection).dropCandidate?
    return l.add mark

/-- A colon: it makes the candidate a key, or stands behind a key marked as such. -/
def valueMark? (column : Nat) (l : Layout) : Option Layout :=
  match l.candidate with
  | some c =>
    let opens := l.opensAt c.column
    let marks := if opens then [Token.blockMapping, .key] else [.key]
    some { l with
      tokens := .value :: l.insertAt c.place marks
      columns := if opens then c.column :: l.columns else l.columns
      keyAllowed := false, candidate := none }
  | none =>
    if !l.inFlow && !l.keyAllowed then none
    else some { (l.openAt column .blockMapping).add .value with keyAllowed := !l.inFlow }

/-- A plain scalar may start here. -/
def startsPlain (inFlow : Bool) (c next : Char) : Bool :=
  if c = '-' then !isBlank next
  else if c = '?' || c = ':' then !inFlow && !isGap next
  else !isGap c && !isFlowIndicator c &&
    c ∉ ['#', '&', '*', '!', '|', '>', '\'', '"', '%', '@', '`']

/-- The token at the first spot, and the spots behind it. -/
def token? (l : Layout) (s : Spot) (r : List Spot) : Option (Layout × List Spot) := do
  let c := s.char
  let next := charAt 0 r
  let marks := l.inFlow || isGap next
  if s.column = 0 ∧ c = '%' then do
    let l ← l.atMargin?
    let (token, rest) ← Token.directiveToken? r
    return (l.add token, rest)
  else if isDocumentMark (s :: r) then do
    let l ← l.atMargin?
    return (l.add (if c = '-' then .documentStart else .documentEnd), r.drop 2)
  else if c = '[' then return (← l.openFlow? .openSequence s, r)
  else if c = '\x7b' then return (← l.openFlow? .openMapping s, r)
  else if c = ']' then return (← l.closeFlow? .closeSequence, r)
  else if c = '\x7d' then return (← l.closeFlow? .closeMapping, r)
  else if c = ',' then do
    let l ← l.dropCandidate?
    return ({ l.add .comma with keyAllowed := true }, r)
  else if c = '-' ∧ isGap next then do
    let l ← l.openEntry? s.column .blockSequence .entry
    return ({ l with keyAllowed := true }, r)
  else if c = '?' ∧ marks then do
    let l ← l.openEntry? s.column .blockMapping .key
    return ({ l with keyAllowed := !l.inFlow }, r)
  else if c = ':' ∧ marks then return (← l.valueMark? s.column, r)
  else if c = '*' ∨ c = '&' then do
    let l ← l.remember? s
    let (name, rest) ← Token.anchorName? r
    return ({ l.add (if c = '*' then .alias name else .anchor name) with keyAllowed := false },
      rest)
  else if c = '!' then do
    let l ← l.remember? s
    let (token, rest) ← Token.tagToken? l.inFlow r
    return ({ l.add token with keyAllowed := false }, rest)
  else if (c = '|' ∨ c = '>') ∧ !l.inFlow then do
    let l ← l.dropCandidate?
    let (t, rest) ← blockText (c == '|') l.indent r
    return ({ l.add (.scalar (if c = '|' then .literal else .folded) t) with keyAllowed := true },
      rest)
  else if c = '\'' ∨ c = '"' then do
    let l ← l.remember? s
    let (t, rest) ← quotedText (c == '\'') 0 .empty r
    return ({ l.add (.scalar .quoted t) with keyAllowed := false }, rest)
  else if startsPlain l.inFlow c next then do
    let l ← l.remember? s
    let (t, broken, rest) ← plainText l.inFlow (l.indent + 1).toNat .empty (s :: r)
    return ({ l.add (.scalar .plain t) with keyAllowed := broken }, rest)
  else none

/-- The tokens up to the end of the text. Every round takes a character. -/
def tokens? : (fuel : Nat) → Layout → List Spot → Option (List Token)
  | 0, _, _ => none
  | n + 1, l, spots => do
    let (l, spots) := skipGap l false spots
    let s :: r := spots | none
    let l := (← l.dropStale? s).closeTo s.column
    if s.char = '\x00' then
      let l ← l.atMargin?
      return l.tokens.reverse
    else
      let (l, rest) ← l.token? s r
      tokens? n l rest

end Layout

/-- The tokens of a text. A byte order mark may stand before it. -/
def tokens? (t : Text) : Option (List Token) :=
  let t := match t with
    | '\ufeff' :: r => r
    | t => t
  if t.all isAllowed then
    let spots := locate 0 0 0 t
    Layout.tokens? (spots.length + 1) .start spots
  else none

end Scenarist.Yaml

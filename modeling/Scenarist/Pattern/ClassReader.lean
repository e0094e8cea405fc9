import Scenarist.Pattern.Cursor

/-! # Reading classes

A class in brackets is a union of items, or sets combined by double signs, which bind from left to
right. Classes may stand inside classes.
-/

namespace Scenarist.Pattern

/-- The classes of ASCII characters by their names. -/
def asciiClass? (name : Text) : Option (List (Char × Char)) :=
  if name = "alnum" then some [('0', '9'), ('A', 'Z'), ('a', 'z')]
  else if name = "alpha" then some [('A', 'Z'), ('a', 'z')]
  else if name = "ascii" then some [('\x00', '\x7f')]
  else if name = "blank" then some [('\t', '\t'), (' ', ' ')]
  else if name = "cntrl" then some [('\x00', '\x1f'), ('\x7f', '\x7f')]
  else if name = "digit" then some [('0', '9')]
  else if name = "graph" then some [('!', '~')]
  else if name = "lower" then some [('a', 'z')]
  else if name = "print" then some [(' ', '~')]
  else if name = "punct" then some [('!', '/'), (':', '@'), ('[', '`'), ('\x7b', '~')]
  else if name = "space" then
    some [('\t', '\t'), ('\n', '\n'), ('\x0b', '\x0b'), ('\x0c', '\x0c'), ('\r', '\r'), (' ', ' ')]
  else if name = "upper" then some [('A', 'Z')]
  else if name = "word" then some [('0', '9'), ('A', 'Z'), ('_', '_'), ('a', 'z')]
  else if name = "xdigit" then some [('0', '9'), ('A', 'F'), ('a', 'f')]
  else none

/-- A class that is still open: its items so far, latest first, what was combined before them,
and the span of its opening. -/
structure OpenClass where
  opening : Span
  negated : Bool
  combined : Option (ClassSet × SetOp)
  items : List ClassItem

namespace OpenClass

def add (item : ClassItem) (o : OpenClass) : OpenClass := { o with items := item :: o.items }

/-- All that the class holds. -/
def set (o : OpenClass) : ClassSet :=
  let last := ClassSet.items o.items.reverse
  match o.combined with
  | some (before, op) => .combined op before last
  | none => last

def combine (op : SetOp) (o : OpenClass) : OpenClass :=
  { o with combined := some (o.set, op), items := [] }

end OpenClass

namespace Cursor

/-- An ASCII class between `[:` and `:]`, if one stands here. -/
def asciiItem? (c : Cursor) : Option (ClassItem × Cursor) := do
  let name ← c.take? "[:".toList
  let (negated, name) := match name.take? "^".toList with
    | some r => (true, r)
    | none => (false, name)
  let word := name.rest.takeWhile (· ≠ ':')
  let colon : Cursor :=
    { name with rest := name.rest.drop word.length, pos := name.pos + word.length }
  let after ← colon.take? ":]".toList
  let _ ← asciiClass? word
  return (.ascii word negated ⟨c.pos, after.pos⟩, after)

/-- Dashes in front of a class stand for themselves. -/
def leadingDashes (start : Nat) : (fuel : Nat) → Cursor → Except Fault (List ClassItem × Cursor)
  | 0, c => .ok ([], c)
  | n + 1, c =>
    if !c.isAt '-' then .ok ([], c)
    else
      let next := c.bumpSpace
      if next.atEnd then fail .classUnclosed start start
      else do
        let (items, rest) ← leadingDashes start n next
        return (.literal ⟨'-', false, ⟨c.pos, c.pos + 1⟩⟩ :: items, rest)

/-- The opening of a class: its bracket, a negation, and dashes or a closing bracket that stand
for themselves. -/
def openClass (c : Cursor) : Except Fault (OpenClass × Cursor) := do
  let start := c.pos
  let first := c.bumpSpace
  if first.atEnd then first.failSince .classUnclosed start
  else
    let negated := first.isAt '^'
    let first := if negated then first.bumpSpace else first
    if first.atEnd then first.failSince .classUnclosed start
    else
      let (dashes, next) ← leadingDashes start first.rest.length first
      if dashes.isEmpty && next.isAt ']' then
        let after := next.bumpSpace
        if after.atEnd then after.failSince .classUnclosed start
        else
          let item := ClassItem.literal ⟨']', false, ⟨next.pos, next.pos + 1⟩⟩
          return (⟨⟨start, after.pos⟩, negated, none, [item]⟩, after)
      else return (⟨⟨start, next.pos⟩, negated, none, dashes.reverse⟩, next)

/-- A character or an escape inside a class. -/
def classPrimitive (c : Cursor) : Except Fault (Ast × Cursor) :=
  if c.isAt '\\' then c.escape
  else .ok (.literal ⟨c.char, false, ⟨c.pos, c.pos + 1⟩⟩, c.bump)

/-- What may stand in a class by itself. -/
def classItem : Ast → Except Fault ClassItem
  | .literal l => .ok (.literal l)
  | .short s => .ok (.short s)
  | .property p => .ok (.property p)
  | other => .error ⟨.classEscape, other.span, none⟩

/-- What may stand at an end of a range. -/
def rangeEnd : Ast → Except Fault Literal
  | .literal l => .ok l
  | other => .error ⟨.classRangeBoundary, other.span, none⟩

/-- An item or a range. `unclosed` is the fault when the pattern ends here. -/
def classRange (unclosed : Fault) (c : Cursor) : Except Fault (ClassItem × Cursor) := do
  let (first, after) ← c.classPrimitive
  let after := after.skipSpace
  if after.atEnd then throw unclosed
  else if !after.isAt '-' || after.peekSpace == some ']' || after.peekSpace == some '-' then
    return (← classItem first, after)
  else
    let second := after.bumpSpace
    if second.atEnd then throw unclosed
    else
      let (last, rest) ← second.classPrimitive
      let low ← rangeEnd first
      let high ← rangeEnd last
      if low.char ≤ high.char then return (.range low high, rest)
      else fail .classRange first.span.start last.span.stop

/-- A double sign that combines sets. -/
def setOp? (c : Cursor) : Option (SetOp × Cursor) :=
  ((c.take? "&&".toList).map fun c => (.intersection, c)).or
    (((c.take? "--".toList).map fun c => (.difference, c)).or
      ((c.take? "~~".toList).map fun c => (.symmetricDifference, c)))

/-- The rest of a class inside the classes `outer`, the innermost first. Every round takes a
character. -/
def classBody : (fuel : Nat) → OpenClass → (outer : List OpenClass) → Cursor →
    Except Fault (Ast × Cursor)
  | 0, o, _, _ => .error ⟨.classUnclosed, o.opening, none⟩
  | n + 1, o, outer, c => do
    let unclosed : Fault := ⟨.classUnclosed, o.opening, none⟩
    let c := c.skipSpace
    if c.atEnd then throw unclosed
    else if c.isAt '[' then
      match c.asciiItem? with
      | some (item, rest) => classBody n (o.add item) outer rest
      | none =>
        let (inner, rest) ← c.openClass
        classBody n inner (o :: outer) rest
    else if c.isAt ']' then
      let rest := c.bump
      let span : Span := ⟨o.opening.start, rest.pos⟩
      match outer with
      | [] => return (.bracketed span o.negated o.set, rest)
      | above :: outer => classBody n (above.add (.bracketed span o.negated o.set)) outer rest
    else match c.setOp? with
      | some (op, rest) => classBody n (o.combine op) outer rest
      | none =>
        let (item, rest) ← c.classRange unclosed
        classBody n (o.add item) outer rest

/-- A class; the cursor stands at its bracket. -/
def bracketClass (c : Cursor) : Except Fault (Ast × Cursor) := do
  let (o, rest) ← c.openClass
  classBody (rest.rest.length + 1) o [] rest

end Cursor

end Scenarist.Pattern

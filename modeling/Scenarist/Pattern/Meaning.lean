import Scenarist.Pattern.Expr
import Scenarist.Pattern.Property
import Scenarist.Pattern.ClassReader

/-! # The meaning of a pattern

Flags decide what letters, points, anchors and classes mean. Flags that are set inside a group
hold up to its end. Without Unicode a class must stay within ASCII.
-/

namespace Scenarist.Pattern

structure Flags where
  caseInsensitive : Bool
  multiLine : Bool
  dotAll : Bool
  unicode : Bool
  returnLines : Bool
deriving DecidableEq

namespace Flags

def plain : Flags := ⟨false, false, false, true, false⟩

def update (items : List FlagItem) (f : Flags) : Flags where
  caseInsensitive := (flagState .caseInsensitive true items).getD f.caseInsensitive
  multiLine := (flagState .multiLine true items).getD f.multiLine
  dotAll := (flagState .dotAll true items).getD f.dotAll
  unicode := (flagState .unicode true items).getD f.unicode
  returnLines := (flagState .returnLines true items).getD f.returnLines

def words (f : Flags) : WordClass := if f.unicode then .unicode else .ascii

/-- The set with its case variants, if case does not count. -/
def folded (f : Flags) (s : CharSet) : CharSet :=
  if f.caseInsensitive then (if f.unicode then .anyCase s else .anyAsciiCase s) else s

/-- The set as a class at `span`. -/
def checked (f : Flags) (span : Span) (s : CharSet) : Except Fault CharSet :=
  if f.unicode || s.isAscii then .ok s else .error ⟨.invalidUtf8, span, none⟩

/-- The set of a class, with its case variants before it is negated. -/
def classSet (f : Flags) (span : Span) (negated : Bool) (s : CharSet) : Except Fault CharSet :=
  f.checked span (if negated then .complement (f.folded s) else f.folded s)

end Flags

/-! ## Single characters -/

/-- The character that a literal stands for. Without Unicode two digits write a byte. -/
def Literal.scalar (f : Flags) (l : Literal) : Except Fault Char :=
  if !f.unicode && l.isByte && 0x80 ≤ l.char.toNat then .error ⟨.invalidUtf8, l.span, none⟩
  else .ok l.char

/-- A literal inside a class. -/
def Literal.inClass (f : Flags) (l : Literal) : Except Fault Char := do
  let c ← l.scalar f
  if !f.unicode && 0x80 ≤ c.toNat then throw ⟨.unicodeNotAllowed, l.span, none⟩ else return c

def PropertyClass.set (f : Flags) (p : PropertyClass) : Except Fault CharSet :=
  if !f.unicode then .error ⟨.unicodeNotAllowed, p.span, none⟩
  else
    match p.name.set with
    | .ok s => f.classSet p.span p.negated s
    | .error cause => .error ⟨cause, p.span, none⟩

def ShortClassKind.set (f : Flags) : ShortClassKind → CharSet
  | .digit => if f.unicode then .digit else .range '0' '9'
  | .space =>
    if f.unicode then .blank else .ofRanges ((asciiClass? "space").getD [])
  | .word => if f.unicode then .word else .ofRanges ((asciiClass? "word").getD [])

def ShortClass.set (f : Flags) (s : ShortClass) : Except Fault CharSet :=
  let set := s.kind.set f
  f.checked s.span (if s.negated then .complement set else set)

/-! ## Classes -/

mutual

def ClassSet.set (f : Flags) : ClassSet → Except Fault CharSet
  | .items items => itemsSet f items
  | .combined op a b => do
    let a := f.folded (← ClassSet.set f a)
    let b := f.folded (← ClassSet.set f b)
    return match op with
      | .intersection => .inter a b
      | .difference => .diff a b
      | .symmetricDifference => .symmDiff a b

def itemsSet (f : Flags) : List ClassItem → Except Fault CharSet
  | [] => .ok .none
  | item :: r => do
    let s ← itemSet f item
    return .union s (← itemsSet f r)

def itemSet (f : Flags) : ClassItem → Except Fault CharSet
  | .literal l => (l.inClass f).map .char
  | .range a b => do return .range (← a.inClass f) (← b.inClass f)
  | .ascii name negated span => f.classSet span negated (.ofRanges ((asciiClass? name).getD []))
  | .property p => p.set f
  | .short s => s.set f
  | .bracketed span negated set => do f.classSet span negated (← ClassSet.set f set)

end

/-! ## Expressions -/

def Assertion.look (f : Flags) : Assertion → Look
  | .lineStart =>
    if f.multiLine then (if f.returnLines then .returnLineStart else .lineStart) else .textStart
  | .lineEnd =>
    if f.multiLine then (if f.returnLines then .returnLineEnd else .lineEnd) else .textEnd
  | .textStart => .textStart
  | .textEnd => .textEnd
  | .wordBoundary => .wordBoundary f.words
  | .noWordBoundary => .noWordBoundary f.words
  | .wordStart => .wordStart f.words
  | .wordEnd => .wordEnd f.words
  | .noWordBefore => .noWordBefore f.words
  | .noWordAfter => .noWordAfter f.words

/-- Any character but those that end a line. -/
def dotSet (f : Flags) : CharSet :=
  if f.dotAll then .all
  else if f.returnLines then .complement (.union (.char '\r') (.char '\n'))
  else .complement (.char '\n')

mutual

/-- The expression of a part, and the flags behind it. -/
def Ast.expr (f : Flags) : Ast → Except Fault (Expr × Flags)
  | .empty _ => .ok (.empty, f)
  | .flags _ items => .ok (.empty, f.update items)
  | .literal l => do return (.set (f.folded (.char (← l.scalar f))), f)
  | .dot span =>
    if f.unicode then .ok (.set (dotSet f), f) else .error ⟨.invalidUtf8, span, none⟩
  | .assertion _ kind => .ok (.look (kind.look f), f)
  | .property p => do return (.set (← p.set f), f)
  | .short s => do return (.set (← s.set f), f)
  | .bracketed span negated set => do
    return (.set (← f.classSet span negated (← set.set f)), f)
  | .repetition _ e least most => do
    let (e, f) ← e.expr f
    return (e.repeated least most, f)
  | .group _ items e => do
    let (e, _) ← e.expr (f.update items)
    return (e, f)
  | .alternation _ branches => branchesExpr f branches
  | .concat _ parts => partsExpr f parts

/-- One part after the other. -/
def partsExpr (f : Flags) : List Ast → Except Fault (Expr × Flags)
  | [] => .ok (.empty, f)
  | part :: r => do
    let (e, f) ← part.expr f
    let (rest, f) ← partsExpr f r
    return (e.followedBy rest, f)

/-- One of the branches. -/
def branchesExpr (f : Flags) : List Ast → Except Fault (Expr × Flags)
  | [] => .ok (.set .none, f)
  | branch :: r => do
    let (e, f) ← branch.expr f
    let (rest, f) ← branchesExpr f r
    return (.alt e rest, f)

end

end Scenarist.Pattern

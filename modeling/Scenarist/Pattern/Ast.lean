import Scenarist.Pattern.Fault

/-! # Patterns as they are written

The parts of a pattern with their places, before flags, properties and escapes are given a meaning.
-/

namespace Scenarist.Pattern

inductive Flag where
  | caseInsensitive
  | multiLine
  | dotAll
  | swapGreed
  | unicode
  | returnLines
  | ignoreSpace
deriving DecidableEq

/-- A list of flags as written: those behind a dash are taken back. -/
inductive FlagItem where
  | negation
  | flag (flag : Flag)
deriving DecidableEq

/-- What a list of flags says about `flag`, if anything. -/
def flagState (flag : Flag) : (set : Bool) → List FlagItem → Option Bool
  | _, [] => none
  | _, .negation :: r => flagState flag false r
  | set, .flag f :: r => if f = flag then some set else flagState flag set r

structure Literal where
  char : Char
  /-- Written by two hexadecimal digits, which can stand for a byte. -/
  isByte : Bool
  span : Span

/-- A property by a letter, a name, or a name and a value. -/
inductive PropertyName where
  | letter (c : Char)
  | named (name : Text)
  | valued (name value : Text)

structure PropertyClass where
  negated : Bool
  name : PropertyName
  span : Span

inductive ShortClassKind where
  | digit
  | space
  | word

/-- A class that a letter behind a backslash names. -/
structure ShortClass where
  negated : Bool
  kind : ShortClassKind
  span : Span

inductive Assertion where
  | lineStart
  | lineEnd
  | textStart
  | textEnd
  | wordBoundary
  | noWordBoundary
  | wordStart
  | wordEnd
  | noWordBefore
  | noWordAfter
deriving DecidableEq

inductive SetOp where
  | intersection
  | difference
  | symmetricDifference
deriving DecidableEq

mutual

/-- What stands between the brackets of a class. -/
inductive ClassSet where
  | items (items : List ClassItem)
  | combined (op : SetOp) (a b : ClassSet)

inductive ClassItem where
  | literal (l : Literal)
  | range (first last : Literal)
  | ascii (name : Text) (negated : Bool) (span : Span)
  | property (p : PropertyClass)
  | short (s : ShortClass)
  | bracketed (span : Span) (negated : Bool) (set : ClassSet)

end

inductive Ast where
  | empty (span : Span)
  | flags (span : Span) (items : List FlagItem)
  | literal (l : Literal)
  | dot (span : Span)
  | assertion (span : Span) (kind : Assertion)
  | property (p : PropertyClass)
  | short (s : ShortClass)
  | bracketed (span : Span) (negated : Bool) (set : ClassSet)
  | repetition (span : Span) (e : Ast) (least : Nat) (most : Option Nat)
  | group (span : Span) (flags : List FlagItem) (e : Ast)
  | alternation (span : Span) (branches : List Ast)
  | concat (span : Span) (parts : List Ast)

def Ast.span : Ast → Span
  | .empty s => s
  | .flags s _ => s
  | .literal l => l.span
  | .dot s => s
  | .assertion s _ => s
  | .property p => p.span
  | .short s => s.span
  | .bracketed s _ _ => s
  | .repetition s _ _ _ => s
  | .group s _ _ => s
  | .alternation s _ => s
  | .concat s _ => s

/-! ## Depth of nesting -/

mutual

/-- The first part that lies deeper than the limit, when its surroundings lie at `depth`. -/
def ClassSet.tooDeep? (span : Span) (depth : Nat) : ClassSet → Option Span
  | .items items =>
    let inner := if 2 ≤ items.length then depth + 1 else depth
    if depthLimit < inner then some span else tooDeepItem? span inner items
  | .combined _ a b =>
    if depthLimit < depth + 1 then some span
    else (ClassSet.tooDeep? span (depth + 1) a).or (ClassSet.tooDeep? span (depth + 1) b)

def tooDeepItem? (span : Span) (depth : Nat) : List ClassItem → Option Span
  | [] => none
  | .bracketed inner _ set :: r =>
    (if depthLimit < depth + 1 then some inner else ClassSet.tooDeep? inner (depth + 1) set).or
      (tooDeepItem? span depth r)
  | .literal _ :: r => tooDeepItem? span depth r
  | .range _ _ :: r => tooDeepItem? span depth r
  | .ascii _ _ _ :: r => tooDeepItem? span depth r
  | .property _ :: r => tooDeepItem? span depth r
  | .short _ :: r => tooDeepItem? span depth r

end

mutual

/-- The first part that lies deeper than the limit, when the pattern lies at `depth`. -/
def Ast.tooDeep? (depth : Nat) : Ast → Option Span
  | .bracketed span _ set =>
    if depthLimit < depth + 1 then some span else set.tooDeep? span (depth + 1)
  | .repetition span e _ _ => if depthLimit < depth + 1 then some span else e.tooDeep? (depth + 1)
  | .group span _ e => if depthLimit < depth + 1 then some span else e.tooDeep? (depth + 1)
  | .alternation span branches =>
    if depthLimit < depth + 1 then some span else tooDeepAny? (depth + 1) branches
  | .concat span parts =>
    if depthLimit < depth + 1 then some span else tooDeepAny? (depth + 1) parts
  | .empty _ => none
  | .flags _ _ => none
  | .literal _ => none
  | .dot _ => none
  | .assertion _ _ => none
  | .property _ => none
  | .short _ => none

def tooDeepAny? (depth : Nat) : List Ast → Option Span
  | [] => none
  | e :: r => (e.tooDeep? depth).or (tooDeepAny? depth r)

end

end Scenarist.Pattern

import Scenarist.Pattern.CharSet

/-! # Expressions and their matching

An expression is matched character by character: from the expressions that may still match follow
those that may match behind the next character. Assertions look at the characters on both sides of
a place and take none.
-/

namespace Scenarist.Pattern

/-- What stands on both sides of a place in a text. -/
structure Place where
  before : Option Char
  after : Option Char

/-- Which characters form words. -/
inductive WordClass where
  | unicode
  | ascii
deriving DecidableEq

def WordClass.has : WordClass → Option Char → Bool
  | _, none => false
  | .unicode, some c => Unicode.isWord c
  | .ascii, some c => c.isAlphanum || c == '_'

inductive Look where
  | textStart
  | textEnd
  | lineStart
  | lineEnd
  /-- Lines that end at a carriage return, a line feed, or the two together. -/
  | returnLineStart
  | returnLineEnd
  | wordBoundary (words : WordClass)
  | noWordBoundary (words : WordClass)
  | wordStart (words : WordClass)
  | wordEnd (words : WordClass)
  | noWordBefore (words : WordClass)
  | noWordAfter (words : WordClass)
deriving DecidableEq

def Look.holds (p : Place) : Look → Bool
  | .textStart => p.before.isNone
  | .textEnd => p.after.isNone
  | .lineStart => p.before.all (· == '\n')
  | .lineEnd => p.after.all (· == '\n')
  | .returnLineStart =>
    p.before.all (· == '\n') || (p.before == some '\r' && p.after != some '\n')
  | .returnLineEnd =>
    p.after.all (· == '\r') || (p.after == some '\n' && p.before != some '\r')
  | .wordBoundary w => w.has p.before != w.has p.after
  | .noWordBoundary w => w.has p.before == w.has p.after
  | .wordStart w => !w.has p.before && w.has p.after
  | .wordEnd w => w.has p.before && !w.has p.after
  | .noWordBefore w => !w.has p.before
  | .noWordAfter w => !w.has p.after

inductive Expr where
  | empty
  | set (chars : CharSet)
  | look (look : Look)
  | seq (first second : Expr)
  | alt (first second : Expr)
  /-- At least `least` times and at most `most` times, if there is a most. -/
  | rep (e : Expr) (least : Nat) (most : Option Nat)
deriving DecidableEq

namespace Expr

/-- One after the other; nothing is left of an empty one. -/
def followedBy (a b : Expr) : Expr :=
  match a with
  | .empty => b
  | a => match b with
    | .empty => a
    | b => .seq a b

/-- The expression can match the empty text at this place. -/
def isEmptyAt (p : Place) : Expr → Bool
  | .empty => true
  | .set _ => false
  | .look l => l.holds p
  | .seq a b => a.isEmptyAt p && b.isEmptyAt p
  | .alt a b => a.isEmptyAt p || b.isEmptyAt p
  | .rep e least _ => least == 0 || e.isEmptyAt p

/-- The expression can match the empty text at every place. -/
def isEmptyAnywhere : Expr → Bool
  | .empty => true
  | .set _ => false
  | .look _ => false
  | .seq a b => a.isEmptyAnywhere && b.isEmptyAnywhere
  | .alt a b => a.isEmptyAnywhere || b.isEmptyAnywhere
  | .rep e least _ => least == 0 || e.isEmptyAnywhere

/-- A repetition. One of an expression that is empty anywhere may as well be left out. -/
def repeated (e : Expr) (least : Nat) (most : Option Nat) : Expr :=
  .rep e (if e.isEmptyAnywhere then 0 else least) most

/-- What is left of a repetition of `e` once a round has taken characters. Rounds that are empty
at the place may have come before it. -/
def roundsLeft (emptyHere : Bool) (e : Expr) (least : Nat) (most : Option Nat) : List Expr :=
  if most = some 0 then []
  else
    (List.range (if emptyHere then max 1 least else 1)).map fun n =>
      .rep e (least - 1 - n) (most.map (· - 1 - n))

/-- What may follow when `c` is taken at a place before it. -/
def after (p : Place) (c : Char) : Expr → List Expr
  | .empty => []
  | .set s => if s.contains c then [.empty] else []
  | .look _ => []
  | .seq a b =>
    (a.after p c).map (·.followedBy b) ++ if a.isEmptyAt p then b.after p c else []
  | .alt a b => a.after p c ++ b.after p c
  | .rep e least most =>
    (roundsLeft (e.isEmptyAt p) e least most).flatMap fun left =>
      (e.after p c).map (·.followedBy left)

/-- Some expression among `current` matches the beginning of the text behind `before`, or `start`
matches a part of it. -/
def occursFrom (start : Expr) (before : Option Char) (current : List Expr) : Text → Bool
  | [] => (start :: current).any (·.isEmptyAt ⟨before, none⟩)
  | c :: r =>
    let place : Place := ⟨before, some c⟩
    let current := start :: current
    current.any (·.isEmptyAt place) ||
      occursFrom start (some c) (current.flatMap (·.after place c)).eraseDups r

/-- The expression matches some part of the text. -/
def occursIn (e : Expr) (t : Text) : Bool := occursFrom e none [] t

end Expr

end Scenarist.Pattern

import Scenarist.Unicode.Bidi
import Scenarist.Unicode.Category
import Scenarist.Unicode.Composition
import Scenarist.Unicode.Joining
import Scenarist.Url.Punycode

/-! # Domain names

The labels of a domain name stand between full stops. Every character of a name takes its form for
domain names first, the text is composed, and only then it is cut into labels. A label behind
`xn--` is written in Punycode; whether it was written so or not, it must be composed, hold no
character that has another form, and follow the rules for marks, joiners and directions. In the
ASCII form of the name each label with other characters is written in Punycode.
-/

namespace Scenarist.Domain

open Unicode
open Punycode (isAscii)

def asciiMark : Text := "xn--"

/-- Characters that may not stand in the ASCII form of a name. -/
def isForbidden (c : Char) : Bool :=
  c.toNat ≤ 0x20 || c.toNat == 0x7F || c ∈ "%#/:<>?@[\\]^|".toList

/-- The composed text of the forms of all characters, if each of them has one. -/
def normalForm? (name : Text) : Option Text :=
  (name.mapM domainForm?).map fun forms => compose forms.flatten

/-! ## Joiners -/

def nonJoiner : Char := '\u200C'

def joiner : Char := '\u200D'

/-- A mark that kills the vowel of its consonant. -/
def isVirama (c : Char) : Bool := markClass c == 9

/-- The letters around a non-joiner would join without it. The text `before` it is reversed. -/
def keepsApart (before after : Text) : Bool :=
  (before.dropWhile isTransparent).head?.any joinsNext &&
    (after.dropWhile isTransparent).head?.any joinsPrevious

/-- Joiners stand behind a mark that kills a vowel, and a non-joiner also between letters that would
join. The text `before` is reversed. -/
def joinersFit (before : Text) : Text → Bool
  | [] => true
  | c :: r =>
    (if c = nonJoiner then before.head?.any isVirama || keepsApart before r
      else if c = joiner then before.head?.any isVirama else true) &&
      joinersFit (c :: before) r

/-! ## Directions -/

/-- The classes of a label that is written from right to left. -/
def rightToLeftClasses : List BidiClass := [.r, .al, .an, .en, .es, .cs, .et, .on, .bn, .nsm]

/-- The classes of a label that is written from left to right. -/
def leftToRightClasses : List BidiClass := [.l, .en, .es, .cs, .et, .on, .bn, .nsm]

/-- The first letter of a label sets its direction. All its characters fit this direction, and a
letter or a figure ends it, behind which marks may stand. Two kinds of figures do not mix. -/
def fitsDirection (label : Text) : Bool :=
  let classes := label.map bidiClass
  let last := (classes.reverse.dropWhile (· == .nsm)).head?
  match classes.head? with
  | none => true
  | some .l => classes.all (leftToRightClasses.contains ·) && last.any ([.l, .en].contains ·)
  | some .r | some .al =>
    classes.all (rightToLeftClasses.contains ·) && last.any ([.r, .al, .en, .an].contains ·) &&
      !(classes.contains .en && classes.contains .an)
  | some _ => false

/-- If something in the name is written from right to left, all labels fit their directions. -/
def directionsFit (labels : List Text) : Bool :=
  !labels.any (·.any isRightToLeft) || labels.all fitsDirection

/-! ## Labels -/

/-- All marks are from U+0300 on. -/
def isMark (c : Char) : Bool :=
  0x300 ≤ c.toNat && (category? "mark").any (·.contains c)

/-- A label as it may be: composed, with characters that are their own forms, not beginning with a
mark nor like a label in Punycode, and with joiners where they belong. -/
def isValid (label : Text) : Bool :=
  compose label == label && label.all (fun c => c != '.' && domainForm? c == some [c]) &&
    !label.head?.any isMark && (Text.dropStart? asciiMark label).isNone && joinersFit [] label

/-- The label that is written, if it is valid. Punycode is for labels that are not ASCII. -/
def label? (written : Text) : Option Text :=
  let label : Option Text := match Text.dropStart? asciiMark written with
    | some code => (Punycode.decode? code).filter fun label => !label.all isAscii
    | none => some written
  label.filter isValid

def labelToAscii (label : Text) : Text :=
  if label.all isAscii then label else asciiMark ++ Punycode.encode label

/-! ## Names -/

/-- The ASCII form of a domain name, if it has one. -/
def toAscii? (name : Text) : Option Text := do
  let labels ← (Text.splitAll '.' (← normalForm? name)).mapM label?
  let ascii := Text.join "." (labels.map labelToAscii)
  if directionsFit labels && !ascii.isEmpty && !ascii.any isForbidden then some ascii else none

end Scenarist.Domain

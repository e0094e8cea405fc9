import Scenarist.Unicode.Case

/-! # Small letters

The full lowercase mapping: one capital becomes two characters, and a capital sigma becomes the
final form at the end of a word.
-/

namespace Scenarist.Text

open Unicode

/-- The small letters of one character on its own. -/
def lowerOf (c : Char) : Text :=
  if c = '\u0130' then ['i', '\u0307'] else [lowerChar c]

/-- The first character that is not case-ignorable has a case. -/
def startsCased (t : Text) : Bool :=
  match t.dropWhile isCaseIgnorable with
  | c :: _ => isCased c
  | [] => false

/-- The small sigma between the characters `before`, nearest first, and `after`. -/
def lowerSigma (before after : Text) : Char :=
  if startsCased before && !startsCased after then '\u03C2' else '\u03C3'

/-- The small letters of a text that follows the characters `before`, nearest first. -/
def toLowerAfter (before : Text) : Text → Text
  | [] => []
  | c :: r =>
    (if c = '\u03A3' then [lowerSigma before r] else lowerOf c) ++ toLowerAfter (c :: before) r

def toLower (t : Text) : Text := toLowerAfter [] t

end Scenarist.Text

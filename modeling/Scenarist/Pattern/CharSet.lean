import Scenarist.Unicode.Case
import Scenarist.Unicode.Word
import Scenarist.Text.Basic

/-! # Sets of characters

The sets that patterns write, closed under complement, union, intersection and differences, and
under the case of letters.
-/

namespace Scenarist.Pattern

inductive CharSet where
  | none
  | char (c : Char)
  | range (first last : Char)
  | digit
  | blank
  | word
  | listed (ranges : Unicode.Ranges)
  /-- With every character all its case variants. -/
  | anyCase (set : CharSet)
  /-- The same for the letters A to Z only. -/
  | anyAsciiCase (set : CharSet)
  | complement (set : CharSet)
  | union (a b : CharSet)
  | inter (a b : CharSet)
  | diff (a b : CharSet)
  | symmDiff (a b : CharSet)
deriving DecidableEq

namespace CharSet

def contains : CharSet → Char → Bool
  | .none, _ => false
  | .char d, c => c == d
  | .range a b, c => a ≤ c && c ≤ b
  | .digit, c => Unicode.isDecimalDigit c
  | .blank, c => Text.isBlank c
  | .word, c => Unicode.isWord c
  | .listed ranges, c => ranges.contains c
  | .anyCase s, c => (Unicode.orbit c).any fun d => s.contains d
  | .anyAsciiCase s, c => s.contains c || s.contains c.toLower || s.contains c.toUpper
  | .complement s, c => !s.contains c
  | .union a b, c => a.contains c || b.contains c
  | .inter a b, c => a.contains c && b.contains c
  | .diff a b, c => a.contains c && !b.contains c
  | .symmDiff a b, c => a.contains c != b.contains c

/-- A set of ranges of characters. -/
def ofRanges (ranges : List (Char × Char)) : CharSet :=
  ranges.foldr (fun (a, b) s => if a = b then union (char a) s else union (range a b) s) none

def all : CharSet := .complement .none

/-- No character of the second half of the first 256 is in the set. -/
def isAscii (s : CharSet) : Bool :=
  (List.range 128).all fun n => !s.contains (Char.ofNat (n + 128))

end CharSet

end Scenarist.Pattern

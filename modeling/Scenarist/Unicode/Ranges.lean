import Scenarist.Text.Basic

/-! # Sets of code points

A set of code points is a list of inclusive ranges. Tables are written as listings:
hexadecimal code points, a dash between the two ends of a range, blanks or line breaks between the
entries.
-/

namespace Scenarist.Unicode

abbrev Ranges := List (Nat × Nat)

namespace Ranges

def contains (ranges : Ranges) (c : Char) : Bool :=
  ranges.any fun (lo, hi) => lo ≤ c.toNat && c.toNat ≤ hi

/-- One entry of a listing: a code point or a range. -/
def ofEntry? (entry : Text) : Option (Nat × Nat) :=
  match Text.splitFirst? '-' entry with
  | some (lo, hi) => do return (← Text.toNat? 16 lo, ← Text.toNat? 16 hi)
  | none => (Text.toNat? 16 entry).map fun n => (n, n)

def ofListing (listing : Text) : Ranges :=
  (Text.splitAll ' ' (listing.map fun c => if c = '\n' then ' ' else c)).filterMap ofEntry?

end Ranges

/-- A property of characters under its names, each in small letters without separators. -/
structure Property where
  names : List Text
  ranges : Ranges

end Scenarist.Unicode

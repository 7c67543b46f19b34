/-!
# Ranges of characters

A class of characters is given by its ranges of code points, in ascending order and apart from one
another.  The classes of this library are those of version 14 of the character standard.
-/

namespace SiteTemplates.Text

/-- Whether a code point lies in one of the ranges, which are closed and ascending. -/
def inRanges (n : Nat) : List (Nat × Nat) → Bool
  | [] => false
  | (first, last) :: rest => if n < first then false else n ≤ last || inRanges n rest

end SiteTemplates.Text

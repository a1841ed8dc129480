/-! # Ranges of characters

`inRanges` tells whether a character lies in one of several closed ranges of numbers. The classes of
characters that reach beyond ASCII are given by such ranges.
-/

set_option autoImplicit false

namespace StyledMap.Text

/-- Whether a character lies in one of the ranges, both ends included. -/
def inRanges (ranges : List (Nat × Nat)) (c : Char) : Bool :=
  ranges.any fun range => range.1 ≤ c.toNat && c.toNat ≤ range.2

end StyledMap.Text

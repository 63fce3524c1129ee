/-!
# Ranges of characters

A class of characters is given by ranges of code points, in increasing order.
-/

namespace BlockQuery.Text

/-- Whether a character lies in one of the ranges. -/
def inRanges (ranges : List (Nat × Nat)) (c : Char) : Bool :=
  ranges.any fun (first, last) => first ≤ c.toNat && c.toNat ≤ last

end BlockQuery.Text

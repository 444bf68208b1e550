/-!
Sets of characters, given by the ranges of code points that make them up.
-/

namespace QueryLint.Text

/-- Whether a character lies in one of the ranges, each written with its first and last member. -/
def inRanges (ranges : List (Nat × Nat)) (c : Char) : Bool :=
  ranges.any fun range => range.1 ≤ c.toNat && c.toNat ≤ range.2

end QueryLint.Text

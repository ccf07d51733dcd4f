-- Classes of characters that are given as ranges of code points.

namespace PenPlot.Text

/-- Whether the code point of a character lies in one of the ranges, of which
both ends belong to the class. -/
def inRanges (ranges : Array (Nat × Nat)) (c : Char) : Bool :=
  ranges.any fun r => r.1 ≤ c.toNat && c.toNat ≤ r.2

end PenPlot.Text

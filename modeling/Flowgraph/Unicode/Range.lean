/-!
# Ranges of code points

A property of characters is a list of ranges of code points, ends included.
-/
namespace Flowgraph.Unicode

/-- Whether a code point lies in one of the ranges. -/
def inRanges (ranges : List (Nat × Nat)) (point : Nat) : Bool :=
  ranges.any fun range => range.1 ≤ point && point ≤ range.2

end Flowgraph.Unicode

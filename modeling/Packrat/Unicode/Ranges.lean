/-! Sets of code points given by their maximal runs, as the character database lists them. -/

namespace Packrat.Unicode

/-- Whether a code point lies in one of the closed ranges. -/
def inRanges (ranges : Array (Nat × Nat)) (code : Nat) : Bool :=
  ranges.any fun (first, last) => first ≤ code && code ≤ last

end Packrat.Unicode

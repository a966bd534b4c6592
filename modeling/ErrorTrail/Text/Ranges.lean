/-! # Code point ranges: Unicode properties as closed ranges in increasing order. -/

namespace ErrorTrail.Text

/-- A set of code points, written as closed ranges `(first, last)` in increasing order. -/
abbrev CodeRanges := List (Nat × Nat)

/-- Whether one of the ranges covers the code point. -/
def CodeRanges.covers (ranges : CodeRanges) (code : Nat) : Bool :=
  ranges.any fun r => r.1 ≤ code && code ≤ r.2

end ErrorTrail.Text

/-!
# Ranges of code points

A character property is kept as a sorted list of inclusive ranges. The search stops at the first range that starts after the code
point, so that an ASCII character costs one comparison.
-/

namespace NavGen

/-- Inclusive ranges of code points, sorted and disjoint. -/
abbrev CodeRanges := List (Nat × Nat)

/-- Whether a code point lies in one of the ranges. -/
def CodeRanges.contains : CodeRanges → Nat → Bool
  | [], _ => false
  | (first, last) :: rest, code => decide (first ≤ code) && (decide (code ≤ last) || CodeRanges.contains rest code)

end NavGen

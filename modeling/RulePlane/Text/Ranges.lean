/-!
# Ranges of code points

Unicode properties are given as lists of closed ranges in ascending order. `inRanges` searches such
a list from its start.
-/

namespace RulePlane.Text

/-- Whether a code point lies in one of the closed ranges. The ranges ascend, so the search stops
    at the first range that starts beyond the code point. -/
def inRanges : List (Nat × Nat) → Nat → Bool
  | [], _ => false
  | (first, last) :: rest, code =>
      if code < first then false else if code ≤ last then true else inRanges rest code

end RulePlane.Text

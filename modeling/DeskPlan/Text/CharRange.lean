/-!
# `DeskPlan.Text.CharRange`: membership in a table of code point ranges
-/

set_option autoImplicit false

namespace DeskPlan.Text

/-- Whether a code point lies in one of the ranges. -/
def inRanges (ranges : List (Nat × Nat)) (code : Nat) : Bool :=
  ranges.any fun r => r.1 ≤ code && code ≤ r.2

end DeskPlan.Text

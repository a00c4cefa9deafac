/-!
# Sets of code points

A property of characters is held as the code points that have it, in inclusive ranges that ascend.
-/

namespace MovePlan.Text

/-- Inclusive ranges of code points. -/
abbrev Ranges := List (Nat × Nat)

/-- Whether a code point lies in one of the ranges. -/
def Ranges.holds (rs : Ranges) (n : Nat) : Bool :=
  rs.any fun r => r.1 ≤ n && n ≤ r.2

end MovePlan.Text

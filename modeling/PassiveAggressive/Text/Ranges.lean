/-!
# Ranges of code points

A character property is a list of ranges of code points, ends included.
-/

namespace PassiveAggressive
namespace Text

/-- Membership of a code point in one of the given ranges. -/
def inRanges (ranges : List (Nat × Nat)) (code : Nat) : Bool :=
  ranges.any fun r => r.1 ≤ code && code ≤ r.2

theorem inRanges_iff {ranges : List (Nat × Nat)} {code : Nat} :
    inRanges ranges code = true ↔ ∃ r ∈ ranges, r.1 ≤ code ∧ code ≤ r.2 := by
  simp [inRanges]

end Text
end PassiveAggressive

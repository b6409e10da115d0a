import PassiveAggressive.Number.Double
import PassiveAggressive.Scalar

/-!
# Values as operands

Where the learner computes with a value, only its number matters, or else its kind.
-/

namespace PassiveAggressive

/-- The value as an operand. -/
def Value.scalar : Value → Scalar Float
  | .int n => .int n
  | .bool b => .bool b
  | .float x => .real x
  | v => .foreign v.kind

/-- The operand as a value, if it is a number. -/
def Scalar.value? : Scalar Float → Option Value
  | .int n => some (.int n)
  | .bool b => some (.bool b)
  | .real x => some (.float x)
  | .foreign _ => none

end PassiveAggressive

/-!
# Variants

The learner comes in four variants: two ways to bound a step, each with a fixed or
an adaptive insensitivity margin.
-/

namespace PassiveAggressive

/-- The four variants. -/
inductive Variant where
  | pa1
  | pa1a
  | pa2
  | pa2a
  deriving DecidableEq, Repr

namespace Variant

/-- The variants, in the order in which they are listed to the user. -/
def all : List Variant := [pa1, pa1a, pa2, pa2a]

/-- The name of a variant. -/
def name : Variant → String
  | pa1 => "PA1"
  | pa1a => "PA1a"
  | pa2 => "PA2"
  | pa2a => "PA2a"

/-- The name in capitals, under which a variant is listed as a constant. -/
def constant : Variant → String
  | pa1 => "PA1"
  | pa1a => "PA1A"
  | pa2 => "PA2"
  | pa2a => "PA2A"

/-- Whether the margin follows the running spread of the targets. -/
def adaptive : Variant → Bool
  | pa1 | pa2 => false
  | pa1a | pa2a => true

end Variant
end PassiveAggressive

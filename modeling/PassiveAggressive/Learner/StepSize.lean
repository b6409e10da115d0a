import PassiveAggressive.Arithmetic
import PassiveAggressive.Learner.Variant

/-!
# Step sizes

A step moves the weights along the example just far enough to make its loss vanish,
held back by the aggressiveness `c` in one of two ways: the step size is capped at
`c`, or its denominator is softened by `1 / (2c)`.

Where the denominator is zero the step size is infinite.  Such a step is discarded
later; it is no error here.
-/

namespace PassiveAggressive

/-- How a step is held back. -/
inductive StepRule where
  | capped
  | softened
  deriving DecidableEq, Repr

/-- The name of a rule. -/
def StepRule.name : StepRule → String
  | capped => "pa1_eta"
  | softened => "pa2_eta"

variable {α : Type} [Arithmetic α]

/-- The quotient, infinite where the denominator is zero. -/
def quotientOrInfinity (x y : α) : Except Fault α :=
  if Arithmetic.isZero y then .ok Arithmetic.infinity else Arithmetic.div x y

/-- The step size for a loss on an example of the given squared norm. -/
def StepRule.size (rule : StepRule) (loss squaredNorm c : α) : Except Fault α :=
  match rule with
  | capped => do
    let ratio ← quotientOrInfinity loss squaredNorm
    Arithmetic.least c ratio
  | softened => do
    let softening ← Arithmetic.div Arithmetic.half c
    let denominator ← Arithmetic.add squaredNorm softening
    quotientOrInfinity loss denominator

namespace Variant

/-- How the variant bounds a step. -/
def rule : Variant → StepRule
  | pa1 | pa1a => .capped
  | pa2 | pa2a => .softened

theorem rule_eq_capped_iff {v : Variant} : v.rule = .capped ↔ v = pa1 ∨ v = pa1a := by
  cases v <;> decide

theorem rule_eq_softened_iff {v : Variant} : v.rule = .softened ↔ v = pa2 ∨ v = pa2a := by
  cases v <;> decide

/-- The aggressiveness where none is configured. -/
def defaultAggressiveness (α : Type) [Arithmetic α] : Variant → α
  | pa1 | pa1a => Arithmetic.infinity
  | pa2 | pa2a => Arithmetic.one

end Variant
end PassiveAggressive

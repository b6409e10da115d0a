import PassiveAggressive.Learner.StepSize
import PassiveAggressive.Proofs.Scalar.Real

/-!
# Step sizes in the system

Between numbers of the system the step size is computed in the system, and it is always
there: where the denominator is zero it is infinite, and the division by the
aggressiveness does not fault because the aggressiveness is greater than zero.  `sizeIn`
is the step size without the faults, and `size_real` says that it is what the rule comes
to.
-/

namespace PassiveAggressive

open Scalar

variable {F : Type} [NumberSystem F]

/-- The quotient, infinite where the denominator is zero. -/
def ratio (x y : F) : F :=
  if NumberSystem.isZero y then NumberSystem.infinity else NumberSystem.div x y

/-- The step size for a loss on an example of the given squared norm, in the system. -/
def StepRule.sizeIn (rule : StepRule) (loss squaredNorm c : F) : F :=
  match rule with
  | capped =>
    if NumberSystem.lt (ratio loss squaredNorm) c then ratio loss squaredNorm else c
  | softened => ratio loss (NumberSystem.add squaredNorm (NumberSystem.div NumberSystem.half c))

theorem quotientOrInfinity_real (x y : F) :
    quotientOrInfinity (Scalar.real x) (.real y) = .ok (.real (ratio x y)) := by
  unfold quotientOrInfinity ratio
  rw [isZero_real]
  cases hy : NumberSystem.isZero y with
  | true => rfl
  | false => rw [if_neg Bool.false_ne_true, div_real x hy, if_neg Bool.false_ne_true]

variable [LawfulNumberSystem F]

/-- **There is a step size** for every loss and norm, if the aggressiveness is greater than zero. -/
theorem size_real (rule : StepRule) (l n : F) {c : F}
    (hc : NumberSystem.lt NumberSystem.zero c = true) :
    rule.size (Scalar.real l) (.real n) (.real c) = .ok (.real (rule.sizeIn l n c)) := by
  cases rule with
  | capped =>
    simp only [StepRule.size, StepRule.sizeIn, quotientOrInfinity_real, ok_bind, Arithmetic.least,
      lt_real]
    split <;> rfl
  | softened =>
    have hhalf : Arithmetic.div (Arithmetic.half : Scalar F) (.real c) =
        .ok (.real (NumberSystem.div NumberSystem.half c)) :=
      div_real _ (LawfulNumberSystem.isZero_of_lt hc)
    simp only [StepRule.size, StepRule.sizeIn, hhalf, ok_bind, add_real, quotientOrInfinity_real]

theorem sign_toReal (above : Bool) :
    ∃ σ : F, NumberSystem.ofInt? (if above then 1 else -1) = some σ ∧
      (Arithmetic.ofInt (if above then 1 else -1) : Scalar F).toReal = .ok σ := by
  obtain ⟨σ, hσ⟩ := LawfulNumberSystem.exists_sign (F := F) above
  refine ⟨σ, hσ, ?_⟩
  change Numeric.toReal (.whole _) = _
  rw [Numeric.toReal, hσ]

end PassiveAggressive

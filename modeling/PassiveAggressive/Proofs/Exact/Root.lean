import Mathlib.Analysis.Real.Sqrt
import PassiveAggressive.Proofs.Exact.Number

/-!
# Roots of exact numbers

What a function has to do to deserve the name of a root, and the field in which there is
one: the reals.
-/

namespace PassiveAggressive

/-- The function that is taken for the root is one, for numbers that are not negative. -/
class LawfulSquareRoot (K : Type) [Field K] [LinearOrder K] [SquareRoot K] : Prop where
  root_nonneg : ∀ {v : K}, 0 ≤ v → 0 ≤ SquareRoot.root v
  root_sq : ∀ {v : K}, 0 ≤ v → SquareRoot.root v ^ 2 = v

/-- Over the reals the root is the square root. -/
noncomputable instance : SquareRoot ℝ := ⟨Real.sqrt⟩

instance : LawfulSquareRoot ℝ where
  root_nonneg _ := Real.sqrt_nonneg _
  root_sq := Real.sq_sqrt

theorem root_zero {K : Type} [Field K] [LinearOrder K] [SquareRoot K] [LawfulSquareRoot K] :
    SquareRoot.root (0 : K) = 0 := by
  have hsq : SquareRoot.root (0 : K) ^ 2 = 0 := LawfulSquareRoot.root_sq le_rfl
  exact pow_eq_zero_iff two_ne_zero |>.1 hsq

end PassiveAggressive

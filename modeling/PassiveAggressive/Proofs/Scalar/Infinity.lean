import Mathlib.Algebra.Order.Ring.Int
import PassiveAggressive.Proofs.Scalar.StepSize

/-!
# An infinite aggressiveness

Where the aggressiveness is infinite neither rule holds a step back: no finite step size
reaches the cap, and nothing is left of what softens the denominator.  Both rules then
come to the plain quotient of loss and norm.  They are written differently, though, and
look at different denominators at different moments, so they come to it with one
reservation: where the quotient is not finite, the cap takes its place, which is not
finite either.

`LawfulInfinity` and `LawfulSquares` are what this asks of the underlying system.  The sum
with zero is only asked to be right for what is not negative, and therefore the norm has
to be known not to be (`squaredNorm_not_negative`).

* `sizeIn_infinity`: the rules agree where the aggressiveness is infinite.
-/

namespace PassiveAggressive

open Scalar

/-- What an infinite aggressiveness relies on in the underlying system. -/
class LawfulInfinity (F : Type) [NumberSystem F] : Prop where
  isFinite_infinity : NumberSystem.isFinite (NumberSystem.infinity : F) = false
  lt_infinity : ∀ {x : F}, NumberSystem.isFinite x = true →
    NumberSystem.lt x NumberSystem.infinity = true
  /-- A sign makes nothing finite. -/
  isFinite_of_sign : ∀ {above : Bool} {σ x : F},
    NumberSystem.ofInt? (if above then 1 else -1) = some σ →
      NumberSystem.isFinite (NumberSystem.mul σ x) = true → NumberSystem.isFinite x = true
  half_div_infinity :
    NumberSystem.div NumberSystem.half NumberSystem.infinity = (NumberSystem.zero : F)
  add_zero : ∀ {n : F}, NumberSystem.lt n NumberSystem.zero = false →
    NumberSystem.isZero n = false → NumberSystem.add n NumberSystem.zero = n
  /-- There may be several zeros. -/
  isZero_add_zero : ∀ {n : F}, NumberSystem.isZero n = true →
    NumberSystem.isZero (NumberSystem.add n NumberSystem.zero) = true

/-- Squares and their sums are not negative. -/
class LawfulSquares (F : Type) [NumberSystem F] : Prop where
  zero : NumberSystem.lt (NumberSystem.zero : F) NumberSystem.zero = false
  mul_self : ∀ x : F, NumberSystem.lt (NumberSystem.mul x x) NumberSystem.zero = false
  add : ∀ {x y : F}, NumberSystem.lt x NumberSystem.zero = false →
    NumberSystem.lt y NumberSystem.zero = false →
      NumberSystem.lt (NumberSystem.add x y) NumberSystem.zero = false
  ofInt? : ∀ {n : Int} {x : F}, 0 ≤ n → NumberSystem.ofInt? n = some x →
    NumberSystem.lt x NumberSystem.zero = false

variable {ι F : Type} [NumberSystem F]

/-! ## Norms -/

section Norms

variable [LawfulSquares F]

/-- The square of a scalar is not negative, in the system. -/
theorem square_not_negative {a p : Scalar F} {y : F} (hp : Arithmetic.mul a a = .ok p)
    (hy : p.toReal = .ok y) : NumberSystem.lt y NumberSystem.zero = false := by
  have hwhole : ∀ n : Int, 0 ≤ n → (Scalar.int n : Scalar F).toReal = .ok y →
      NumberSystem.lt y NumberSystem.zero = false := by
    intro n hn h
    change Numeric.toReal (.whole n) = _ at h
    rw [Numeric.toReal] at h
    split at h
    · rename_i x hx
      cases h
      exact LawfulSquares.ofInt? hn hx
    · cases h
  cases a with
  | int n =>
    cases hp
    exact hwhole _ (mul_self_nonneg n) hy
  | bool b =>
    cases hp
    exact hwhole _ (mul_self_nonneg _) hy
  | real x =>
    cases hp
    cases hy
    exact LawfulSquares.mul_self x
  | foreign k =>
    -- what is foreign may have a product, but that is as foreign
    have hforeign : mulForeign k k = .ok p := hp
    unfold mulForeign at hforeign
    split at hforeign
    · split at hforeign
      · cases hforeign
        cases hy
      · cases hforeign
    · split at hforeign
      · cases hforeign
        cases hy
      · cases hforeign
    · cases hforeign

variable [Key ι]

/-- **A squared norm is not negative**; it may be no number. -/
theorem squaredNorm_not_negative {m : WeightMap ι (Scalar F)} {x : Features ι (Scalar F)}
    {seen : Margin (Scalar F)} (h : m.scoreAndNorm x = .ok seen) :
    ∃ n : F, seen.squaredNorm = .real n ∧ NumberSystem.lt n NumberSystem.zero = false := by
  refine (WeightMap.scoreAndNorm_induction (Q := fun _ => True)
    (P := fun acc => ∃ n : F, acc.squaredNorm = .real n ∧
      NumberSystem.lt n NumberSystem.zero = false)
    (fun acc f acc' hacc h => ⟨?_, trivial⟩) ⟨_, rfl, LawfulSquares.zero⟩ h).1
  obtain ⟨n, hn, hneg⟩ := hacc
  obtain ⟨score, -, h⟩ := bind_eq_ok_iff.1 h
  obtain ⟨norm, hnorm, h⟩ := bind_eq_ok_iff.1 h
  cases h
  obtain ⟨square, hsquare, hnorm⟩ := bind_eq_ok_iff.1 hnorm
  rw [hn] at hnorm
  obtain ⟨_, y, hx, hy, rfl⟩ := (add_eq_ok_iff (.inl (isReal_real n))).1 hnorm
  cases hx
  exact ⟨_, rfl, LawfulSquares.add hneg (square_not_negative hsquare hy)⟩

end Norms

/-! ## Step sizes -/

/-- The same number, or two that are not finite. -/
def SameIfFinite (x y : F) : Prop :=
  x = y ∨ (NumberSystem.isFinite x = false ∧ NumberSystem.isFinite y = false)

theorem SameIfFinite.symm {x y : F} (h : SameIfFinite x y) : SameIfFinite y x := by
  rcases h with h | h
  · exact .inl h.symm
  · exact .inr h.symm

theorem SameIfFinite.trans {x y z : F} (hxy : SameIfFinite x y) (hyz : SameIfFinite y z) :
    SameIfFinite x z := by
  rcases hxy with rfl | ⟨hx, hy⟩
  · exact hyz
  · rcases hyz with rfl | ⟨-, hz⟩
    · exact .inr ⟨hx, hy⟩
    · exact .inr ⟨hx, hz⟩

variable [LawfulInfinity F]

/-- Adding zero to a denominator does not change a quotient. -/
theorem ratio_add_zero (l : F) {n : F} (hn : NumberSystem.lt n NumberSystem.zero = false) :
    ratio l (NumberSystem.add n NumberSystem.zero) = ratio l n := by
  cases hzero : NumberSystem.isZero n with
  | true =>
    have hsum := LawfulInfinity.isZero_add_zero hzero
    rw [ratio, ratio, if_pos hsum, if_pos hzero]
  | false => rw [LawfulInfinity.add_zero hn hzero]

/-- Each rule comes to the plain quotient where the aggressiveness is infinite. -/
theorem sizeIn_infinity_ratio (rule : StepRule) (l : F) {n : F}
    (hn : NumberSystem.lt n NumberSystem.zero = false) :
    SameIfFinite (rule.sizeIn l n NumberSystem.infinity) (ratio l n) := by
  cases rule with
  | capped =>
    rw [StepRule.sizeIn]
    split
    · exact .inl rfl
    · -- the quotient is not below the cap, and so it is not finite
      rename_i hcap
      have hratio : NumberSystem.isFinite (ratio l n) = false :=
        Bool.eq_false_iff.2 fun hfinite => hcap (LawfulInfinity.lt_infinity hfinite)
      exact .inr ⟨LawfulInfinity.isFinite_infinity, hratio⟩
  | softened =>
    left
    rw [StepRule.sizeIn, LawfulInfinity.half_div_infinity, ratio_add_zero l hn]

/-- **The rules agree** where the aggressiveness is infinite. -/
theorem sizeIn_infinity (rule rule' : StepRule) (l : F) {n : F}
    (hn : NumberSystem.lt n NumberSystem.zero = false) :
    SameIfFinite (rule.sizeIn l n NumberSystem.infinity)
      (rule'.sizeIn l n NumberSystem.infinity) :=
  (sizeIn_infinity_ratio rule l hn).trans (sizeIn_infinity_ratio rule' l hn).symm

theorem SameIfFinite.sign {above : Bool} {σ x y : F}
    (hσ : NumberSystem.ofInt? (if above then 1 else -1) = some σ) (h : SameIfFinite x y) :
    SameIfFinite (NumberSystem.mul σ x) (NumberSystem.mul σ y) := by
  have hsigned : ∀ z : F, NumberSystem.isFinite z = false →
      NumberSystem.isFinite (NumberSystem.mul σ z) = false := fun z hz =>
    Bool.eq_false_iff.2 fun hfinite =>
      Bool.eq_false_iff.1 hz (LawfulInfinity.isFinite_of_sign hσ hfinite)
  rcases h with rfl | ⟨hx, hy⟩
  · exact .inl rfl
  · exact .inr ⟨hsigned x hx, hsigned y hy⟩

end PassiveAggressive

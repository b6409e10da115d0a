import Mathlib.Algebra.BigOperators.Ring.List
import Mathlib.Tactic.FieldSimp
import Mathlib.Tactic.LinearCombination
import PassiveAggressive.Proofs.Exact.Learner
import PassiveAggressive.Proofs.Exact.Root

/-!
# The spread over exact numbers

The tracker keeps three numbers and moves them by a recurrence that uses the mean before
a value and the mean after it.  Over the numbers of a field the recurrence is exact, and
the three numbers are what they are meant to be: the count of the values, their mean, and
the sum of their squared deviations from that mean (`Spread.Summarizes`).  One value keeps
this so (`Summarizes.taking`), and a list of values does by induction
(`summarizes_foldl_taking`).

The mean moves with every value, so the deviations of all the values before move with it.
That the sum follows from the last value alone is the content of `Summarizes.taking`, and
it rests on one expansion: about any centre at all, the squared deviations are the squares,
less twice the centre times the sum, plus the square of the centre once for each value
(`sum_sq_sub`).

A sum of squares is not negative, so the deviation is always there
(`Spread.deviation_eq`).
-/

namespace PassiveAggressive

open Exact

variable {K : Type} [Field K]

/-- Squared deviations from any centre. -/
theorem sum_sq_sub (ys : List K) (m : K) :
    (ys.map fun y => (y - m) ^ 2).sum =
      (ys.map (· ^ 2)).sum - 2 * m * ys.sum + ys.length * m ^ 2 := by
  induction ys with
  | nil => simp
  | cons y ys ih =>
      simp only [List.map_cons, List.sum_cons, List.length_cons, Nat.cast_succ, ih]
      ring

namespace Spread

/-- The sample variance, zero below two values. -/
def sampleVariance (t : Spread K) : K :=
  if t.count < 2 then 0 else t.sumSqDiff / ((t.count : K) - 1)

/-- The spread tells the count of the values, their mean, and the sum of their squared deviations
from it. -/
structure Summarizes (t : Spread K) (ys : List K) : Prop where
  count_eq : t.count = ys.length
  mean_eq : (ys.length : K) * t.mean = ys.sum
  sumSqDiff_eq : t.sumSqDiff = (ys.map fun y => (y - t.mean) ^ 2).sum

theorem summarizes_nil : Summarizes (⟨0, 0, 0⟩ : Spread K) [] := by
  constructor
  · rfl
  · simp
  · simp

variable [LinearOrder K] [IsStrictOrderedRing K] {t : Spread K} {ys : List K}

/-- **One more value.** -/
theorem Summarizes.taking (h : t.Summarizes ys) (y : K) : (t.taking y).Summarizes (ys ++ [y]) := by
  obtain ⟨hcount, hmean, hsum⟩ := h
  have hne : (ys.length : K) + 1 ≠ 0 := by positivity
  -- how far the mean moves, as a multiple of what the value is away from it
  have hmove : ((ys.length : K) + 1) * ((t.taking y).mean - t.mean) = y - t.mean := by
    simp only [Spread.taking, hcount, Nat.cast_succ]
    field_simp
    ring
  constructor
  · show t.count + 1 = (ys ++ [y]).length
    rw [hcount, List.length_append, List.length_singleton]
  · rw [List.length_append, List.length_singleton, List.sum_append, List.sum_singleton,
      Nat.cast_succ]
    linear_combination hmean + hmove
  · have hgrown : (t.taking y).sumSqDiff =
        t.sumSqDiff + (y - t.mean) * (y - (t.taking y).mean) := rfl
    rw [hgrown, List.map_append, List.sum_append, List.map_singleton, List.sum_singleton, hsum,
      sum_sq_sub, sum_sq_sub, ← hmean]
    linear_combination (t.mean - (t.taking y).mean) * hmove

/-- **A list of values**, one after the other. -/
theorem summarizes_foldl_taking (ys : List K) :
    (ys.foldl Spread.taking ⟨0, 0, 0⟩).Summarizes ys := by
  induction ys using List.reverseRecOn with
  | nil => exact summarizes_nil
  | append_singleton ys y ih =>
      rw [List.foldl_append, List.foldl_cons, List.foldl_nil]
      exact ih.taking y

theorem Summarizes.mean_eq_div (h : t.Summarizes ys) (hys : ys ≠ []) :
    t.mean = ys.sum / ys.length := by
  have hne : (ys.length : K) ≠ 0 := Nat.cast_ne_zero.2 (List.length_pos_of_ne_nil hys).ne'
  rw [eq_div_iff hne, mul_comm]
  exact h.mean_eq

theorem sumSqDiff_le_taking (t : Spread K) (y : K) : t.sumSqDiff ≤ (t.taking y).sumSqDiff := by
  have hpos : (0 : K) < ((t.count + 1 : ℕ) : K) := by positivity
  have hshare : (y - t.mean) * (y - (t.taking y).mean) =
      (y - t.mean) ^ 2 * (t.count / ((t.count + 1 : ℕ) : K)) := by
    simp only [Spread.taking, Nat.cast_succ]
    field_simp
    ring
  have hnonneg : 0 ≤ (y - t.mean) * (y - (t.taking y).mean) := by
    rw [hshare]
    positivity
  show t.sumSqDiff ≤ t.sumSqDiff + (y - t.mean) * (y - (t.taking y).mean)
  linarith

theorem sampleVariance_nonneg (h : 0 ≤ t.sumSqDiff) : 0 ≤ t.sampleVariance := by
  unfold sampleVariance
  split
  · exact le_rfl
  · rename_i hcount
    have hone : (1 : K) ≤ t.count := by exact_mod_cast (by omega : 1 ≤ t.count)
    exact div_nonneg h (sub_nonneg.2 hone)

/-- The variance times one less than the count is the sum of the squared differences. -/
theorem Summarizes.sampleVariance_mul (h : t.Summarizes ys) :
    t.sampleVariance * ((ys.length : K) - 1) = t.sumSqDiff := by
  unfold sampleVariance
  rw [h.count_eq]
  split
  · rename_i hcount
    rw [zero_mul, h.sumSqDiff_eq]
    -- no value at all, or one that is its own mean
    match ys, h, hcount with
    | [], _, _ => simp
    | [y], h, _ =>
        have hy : t.mean = y := by simpa using h.mean_eq
        simp [hy]
  · rename_i hcount
    have hne : (ys.length : K) - 1 ≠ 0 := by
      have hlt : (1 : K) < ys.length := by exact_mod_cast (by omega : 1 < ys.length)
      exact (sub_pos.2 hlt).ne'
    exact div_mul_cancel₀ _ hne

variable [SquareRoot K]

/-- **The variance** is the sample variance. -/
theorem variance_exact (t : Spread K) :
    (t.map finite).variance = .ok (finite t.sampleVariance) := by
  unfold variance sampleVariance
  show (if t.count < 2 then _ else _) = _
  split
  · rfl
  · rename_i hcount
    have hne : (((t.count : ℤ) - 1 : ℤ) : K) ≠ 0 := Int.cast_ne_zero.2 (by omega)
    show Arithmetic.div (finite t.sumSqDiff) (Arithmetic.ofInt ((t.count : ℤ) - 1)) = _
    rw [ofInt_eq, div_finite _ hne, Int.cast_sub, Int.cast_natCast, Int.cast_one]

/-- **The deviation** is the root of the variance, and it is always there. -/
theorem deviation_eq (h : 0 ≤ t.sumSqDiff) :
    (t.map finite).deviation = .ok (finite (SquareRoot.root t.sampleVariance)) := by
  have hroot : (Arithmetic.sqrt (finite t.sampleVariance) : Except Fault (Exact K)) =
      .ok (finite (SquareRoot.root t.sampleVariance)) := by
    have hneg : ¬ t.sampleVariance < 0 := not_lt.2 (sampleVariance_nonneg h)
    show (if decide (t.sampleVariance < 0) = true then _ else _) = _
    rw [if_neg (by simpa using hneg)]
    rfl
  rw [deviation, variance_exact, ok_bind, hroot]

end Spread
end PassiveAggressive

import Mathlib.Data.List.Perm.Basic
import PassiveAggressive.Proofs.Session.AdaptiveMargin

/-!
# The spread summarizes its values

The tracker meets its values one at a time and forgets them.  Over exact numbers it ends with what
a second pass over all of them would have found: their count, their mean, and the sum of their
squared deviations from that mean, which is the mean of all the values and not the ones that were
in force when they came (`summarizes_values`).

This is more than that the recurrence may be run: it determines the tracker.  The three numbers are
functions of the values (`Summarizes.unique`), and each of these functions is a sum, so that the
order of the values is not to be seen (`foldl_taking_perm`).  Only over exact numbers is this so.

No values at all have no mean, and the tracker then keeps the zero it was made with.
-/

namespace PassiveAggressive

open Exact

variable {K : Type} [Field K] [LinearOrder K] [IsStrictOrderedRing K]

namespace Spread

variable {t t' : Spread K} {ys zs : List K}

theorem Summarizes.unique (h : t.Summarizes ys) (h' : t'.Summarizes ys) (hys : ys ≠ []) :
    t = t' := by
  have hcount : t.count = t'.count := h.count_eq.trans h'.count_eq.symm
  have hmean : t.mean = t'.mean := (h.mean_eq_div hys).trans (h'.mean_eq_div hys).symm
  have hsum : t.sumSqDiff = t'.sumSqDiff := by
    rw [h.sumSqDiff_eq, h'.sumSqDiff_eq, hmean]
  cases t
  cases t'
  exact Spread.mk.injEq .. |>.mpr ⟨hcount, hmean, hsum⟩

omit [LinearOrder K] [IsStrictOrderedRing K] in
theorem Summarizes.of_perm (h : t.Summarizes ys) (hperm : ys.Perm zs) : t.Summarizes zs where
  count_eq := h.count_eq.trans hperm.length_eq
  mean_eq := by rw [← hperm.length_eq, h.mean_eq, hperm.sum_eq]
  sumSqDiff_eq := h.sumSqDiff_eq.trans (hperm.map _).sum_eq

/-- **The order of the values** does not matter. -/
theorem foldl_taking_perm (hperm : ys.Perm zs) :
    ys.foldl taking ⟨0, 0, 0⟩ = zs.foldl taking ⟨0, 0, 0⟩ := by
  rcases eq_or_ne zs [] with rfl | hzs
  · rw [hperm.eq_nil]
  · exact ((summarizes_foldl_taking ys).of_perm hperm).unique (summarizes_foldl_taking zs) hzs

variable [SquareRoot K]

theorem foldlM_handle_start (ys : List K) :
    (ys.map finite).foldlM handle (start : Spread (Exact K)) =
      .ok ((ys.foldl taking ⟨0, 0, 0⟩).map finite) :=
  foldlM_handle_exact ⟨0, 0, 0⟩ ys

/-- **One pass finds what two passes find.**  Over exact numbers a new tracker takes every list of
values in.  It then has their count, their mean and the sum of their squared deviations from this
mean, and its variance is that sum over one less than the count, zero below two values.  The sum is
not negative, and no further value makes it smaller.  The same values in another order leave the
same tracker. -/
theorem summarizes_values (ys : List K) :
    ∃ t : Spread K,
      (ys.map finite).foldlM handle (start : Spread (Exact K)) = .ok (t.map finite) ∧
      t.Summarizes ys ∧
      (t.map finite).variance =
        .ok (finite (if ys.length < 2 then 0 else t.sumSqDiff / ((ys.length : K) - 1))) ∧
      0 ≤ t.sumSqDiff ∧
      (∀ y, ∃ t' : Spread K, (t.map finite).handle (finite y) = .ok (t'.map finite) ∧
        t.sumSqDiff ≤ t'.sumSqDiff) ∧
      ∀ zs, ys.Perm zs →
        (zs.map finite).foldlM handle (start : Spread (Exact K)) = .ok (t.map finite) := by
  have hall := summarizes_foldl_taking ys
  refine ⟨_, foldlM_handle_start ys, hall, ?_, hall.sumSqDiff_nonneg, fun y => ?_,
    fun zs hperm => ?_⟩
  · rw [variance_exact, sampleVariance, hall.count_eq]
  · refine ⟨_, ?_, sumSqDiff_le_taking _ y⟩
    rw [handle, observe_exact, ok_bind]
  · rw [foldlM_handle_start, foldl_taking_perm hperm]

/-- Three values, and the same ones from the largest to the smallest. -/
theorem summarizes_values_reversed :
    ∃ t : Spread ℝ, t.Summarizes [2, 4, 9] ∧
      ([(2 : ℝ), 4, 9].map finite).foldlM handle (start : Spread (Exact ℝ)) = .ok (t.map finite) ∧
      ([(9 : ℝ), 4, 2].map finite).foldlM handle (start : Spread (Exact ℝ)) = .ok (t.map finite) ∧
      t.mean = 5 ∧ t.sumSqDiff = 26 := by
  obtain ⟨t, hvalues, hall, -, -, -, hperm⟩ := summarizes_values [(2 : ℝ), 4, 9]
  have hmean : t.mean = 5 := by
    rw [hall.mean_eq_div (by simp)]
    norm_num
  refine ⟨t, hall, hvalues, hperm _ (List.reverse_perm _).symm, hmean, ?_⟩
  rw [hall.sumSqDiff_eq, hmean]
  norm_num

end Spread
end PassiveAggressive

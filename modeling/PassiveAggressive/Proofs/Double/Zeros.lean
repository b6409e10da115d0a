import PassiveAggressive.Proofs.Double.Infinity

/-!
# The two zeros

A sum is negative zero only if both parts are: two numbers that cancel come to positive
zero, and a sum that is not zero does not become zero by rounding, because the sum of two
doubles is a multiple of the least one.  So what is added up from zero is never negative
zero (`not_isNegativeZero_add`), and adding it to zero gives it back
(`zero_add_of_not_isNegativeZero`), whether it is finite or not.
-/

namespace PassiveAggressive
namespace Double

open Float.Model Float.Model.UnpackedFloat

/-- The double is negative zero. -/
def IsNegativeZero (x : Float) : Prop := parts x = .zero .negative

theorem not_isNegativeZero_zero : ¬ IsNegativeZero NumberSystem.zero := by
  intro h
  cases h

/-- A mantissa that is not zero is not rounded to zero, and zero is given the positive sign. -/
theorem normalize_ne_negativeZero (m : Int) {e : Int} (he : -1074 ≤ e) :
    UnpackedFloat.normalize Format.binary64 m e .positive ≠ .zero .negative := by
  obtain ⟨-, r, hr, hvalue⟩ := normalize_spec m e .positive
  have hleast : (0 : ℚ) < 2 ^ (-1074 : ℤ) := zpow_pos two_pos _
  have hone : (2 : ℚ) ^ (-1074 : ℤ) ≤ 2 ^ e := zpow_le_zpow_right₀ one_le_two he
  have hrep : Representable ((2 : ℚ) ^ (-1074 : ℤ)) := representable_two_zpow le_rfl
  intro h
  rw [h] at hvalue
  obtain rfl : 0 = r := Exact.finite.inj hvalue
  rcases lt_trichotomy m 0 with hm | rfl | hm
  · have hz : (m : ℚ) * 2 ^ e ≤ -2 ^ (-1074 : ℤ) := by
      have hm1 : (m : ℚ) ≤ -1 := by exact_mod_cast Int.le_sub_one_of_lt hm
      nlinarith [zpow_pos (two_pos (α := ℚ)) e]
    linarith [hr.le_of_le hrep.neg hz]
  · cases h
  · have hz : (2 : ℚ) ^ (-1074 : ℤ) ≤ (m : ℚ) * 2 ^ e := by
      have hm1 : (1 : ℚ) ≤ m := by exact_mod_cast hm
      nlinarith [zpow_pos (two_pos (α := ℚ)) e]
    linarith [hr.ge_of_ge hrep hz]

theorem isNegativeZero_ofParts {u : Parts} (hu : Canonical u) :
    IsNegativeZero (ofParts u) ↔ u = .zero .negative := by
  unfold IsNegativeZero
  cases u with
  | notANumber => rw [parts_ofParts_notANumber]
  | infinity s => rw [parts_ofParts_infinity]
  | zero s => rw [parts_ofParts_zero]
  | finite s m e hm =>
    rw [parts_ofParts s hm hu]
    split <;> simp

/-- The parts of a sum are negative zero only if the first ones are. -/
theorem add_parts_ne_negativeZero {u v : Parts} (hu : Canonical u) (hv : Canonical v)
    (hne : u ≠ .zero .negative) :
    Canonical (UnpackedFloat.add .binary64 u v) ∧
      UnpackedFloat.add .binary64 u v ≠ .zero .negative := by
  have hnan : Canonical .notANumber ∧ (.notANumber : Parts) ≠ .zero .negative := by
    refine ⟨trivial, ?_⟩
    simp
  have hinfinity : ∀ s, Canonical (.infinity s) ∧ (.infinity s : Parts) ≠ .zero .negative := by
    intro s
    refine ⟨trivial, ?_⟩
    simp
  have hzero : Canonical (.zero .positive) ∧ (.zero .positive : Parts) ≠ .zero .negative := by
    refine ⟨trivial, ?_⟩
    simp
  have hfinite : ∀ {s m e hm}, Canonical (.finite s m e hm) →
      Canonical (.finite s m e hm) ∧ (.finite s m e hm : Parts) ≠ .zero .negative := by
    intro s m e hm h
    refine ⟨h, ?_⟩
    simp
  cases u with
  | notANumber => cases v <;> exact hnan
  | infinity s =>
    cases v with
    | notANumber => exact hnan
    | infinity t =>
      rw [UnpackedFloat.add]
      split
      · exact hinfinity s
      · exact hnan
    | zero t => exact hinfinity s
    | finite t m e hm => exact hinfinity s
  | zero s =>
    cases s with
    | negative => exact absurd rfl hne
    | positive =>
      cases v with
      | notANumber => exact hnan
      | infinity t => exact hinfinity t
      | zero t => cases t <;> exact hzero
      | finite t m e hm => exact hfinite hv
  | finite s m e hm =>
    cases v with
    | notANumber => exact hnan
    | infinity t => exact hinfinity t
    | zero t => exact hfinite hu
    | finite t m' e' hm' =>
      exact ⟨(normalize_spec _ _ .positive).1,
        normalize_ne_negativeZero _ (le_min hu.2.1 hv.2.1)⟩

/-- **A sum is negative zero** only if the first part is. -/
theorem not_isNegativeZero_add {x : Float} (hx : ¬ IsNegativeZero x) (y : Float) :
    ¬ IsNegativeZero (NumberSystem.add x y) := by
  have hadd : NumberSystem.add x y =
      ofParts (UnpackedFloat.add .binary64 (parts x) (parts y)) := rfl
  obtain ⟨hcanonical, hne⟩ :=
    add_parts_ne_negativeZero (canonical_parts x).1 (canonical_parts y).1 hx
  rw [hadd, isNegativeZero_ofParts hcanonical]
  exact hne

/-- Adding to zero changes nothing but the sign of zero. -/
theorem zero_add_of_not_isNegativeZero {x : Float} (hx : ¬ IsNegativeZero x) :
    NumberSystem.add NumberSystem.zero x = x := by
  have hparts : UnpackedFloat.add .binary64 (.zero .positive) (parts x) = parts x := by
    unfold IsNegativeZero at hx
    cases hp : parts x with
    | zero s =>
      cases s with
      | negative => exact absurd hp hx
      | positive => rfl
    | _ => rfl
  have hadd : NumberSystem.add NumberSystem.zero x =
      ofParts (UnpackedFloat.add .binary64 (.zero .positive) (parts x)) := rfl
  rw [hadd, hparts, ofParts_parts]

/-! ## What is not finite -/

theorem Rounds.eq_zero {y : Exact ℚ} (h : Rounds (.finite 0) y) : y = .finite 0 := by
  obtain ⟨r, rfl, hr⟩ := h.exists_finite representable_greatest greatest_lt_beyond
    (by rw [abs_zero]; exact greatest_pos.le)
  rw [hr.eq_of_representable representable_zero]

/-- A product with zero, added to zero, is finite exactly if the other factor is. -/
theorem isFinite_add_mul_zero (x : Float) :
    NumberSystem.isFinite (NumberSystem.add NumberSystem.zero (NumberSystem.mul x NumberSystem.zero))
      = NumberSystem.isFinite x := by
  have hmul := rounds_mul x NumberSystem.zero
  have hadd := rounds_add NumberSystem.zero (NumberSystem.mul x NumberSystem.zero)
  rw [exact_systemZero] at hmul hadd
  rw [isFinite_eq, isFinite_eq]
  cases hx : exact x with
  | finite q =>
    rw [hx, Exact.mul, mul_zero] at hmul
    rw [hmul.eq_zero, Exact.add, add_zero] at hadd
    rw [hadd.eq_zero]
    rfl
  | infinite side =>
    rw [hx, Exact.mul, if_pos rfl] at hmul
    rw [hmul.eq_nan] at hadd
    rw [Rounds.eq_nan hadd]
    rfl
  | nan =>
    rw [hx] at hmul
    rw [Rounds.eq_nan hmul] at hadd
    rw [Rounds.eq_nan hadd]

theorem isFinite_add_nan (x : Float) :
    NumberSystem.isFinite (NumberSystem.add x Number.nan) = false := by
  have hadd := rounds_add x Number.nan
  have hnan : exact Number.nan = .nan := rfl
  rw [hnan] at hadd
  have hsum : (exact x).add .nan = .nan := by cases exact x <;> rfl
  rw [hsum] at hadd
  rw [isFinite_eq, hadd.eq_nan]
  rfl

end Double
end PassiveAggressive

import PassiveAggressive.Proofs.Double.Increment
import PassiveAggressive.Proofs.Scalar.Infinity

/-!
# Doubles with an infinite aggressiveness

Doubles are what an infinite aggressiveness relies on.  That zero can be added without
consequence is more than a statement about values: what is added up has to be the very
same double.  So the sum is computed on the parts, where all but the zeros are returned
as they are, and a double is what it is put together from (`ofParts_parts`).  There are
two zeros, and the sum of the negative one with zero is the other.

Signs are read off the values.  A square is not negative and neither is a sum of what is
not, and rounding keeps to the side of zero.
-/

namespace PassiveAggressive
namespace Double

open Float.Model Float.Model.UnpackedFloat

/-! ## Adding zero -/

theorem ofParts_parts (x : Float) : ofParts (parts x) = x := Float.ofBits_toBits x

theorem isZero_iff_parts (x : Float) : NumberSystem.isZero x = true ↔ ∃ s, parts x = .zero s := by
  change UnpackedFloat.beq (parts x) (.zero .positive) = true ↔ _
  cases parts x with
  | notANumber => exact ⟨nofun, nofun⟩
  | infinity s => cases s <;> exact ⟨nofun, nofun⟩
  | zero s => exact ⟨fun _ => ⟨s, rfl⟩, fun _ => rfl⟩
  | finite s m e hm => cases s <;> exact ⟨nofun, nofun⟩

theorem add_zero_eq (x : Float) :
    NumberSystem.add x NumberSystem.zero =
      ofParts (UnpackedFloat.add .binary64 (parts x) (.zero .positive)) := rfl

theorem add_zero_of_ne {x : Float} (hx : NumberSystem.isZero x = false) :
    NumberSystem.add x NumberSystem.zero = x := by
  have hparts : UnpackedFloat.add .binary64 (parts x) (.zero .positive) = parts x := by
    cases hp : parts x with
    | zero s =>
      rw [(isZero_iff_parts x).2 ⟨s, hp⟩] at hx
      cases hx
    | _ => rfl
  rw [add_zero_eq, hparts, ofParts_parts]

theorem isZero_add_zero {x : Float} (hx : NumberSystem.isZero x = true) :
    NumberSystem.isZero (NumberSystem.add x NumberSystem.zero) = true := by
  obtain ⟨s, hs⟩ := (isZero_iff_parts x).1 hx
  rw [add_zero_eq, hs, isZero_iff_parts]
  cases s
  · exact ⟨.positive, parts_ofParts_zero .positive⟩
  · exact ⟨.positive, parts_ofParts_zero .positive⟩

/-- Doubles are what an infinite aggressiveness relies on. -/
instance : LawfulInfinity Float where
  isFinite_infinity := rfl
  lt_infinity := by
    intro x hx
    obtain ⟨q, hq⟩ := (isFinite_iff x).1 hx
    have hinfinity : exact NumberSystem.infinity = .infinite false := exact_infinity false
    rw [lt_eq, hq, hinfinity]
    rfl
  isFinite_of_sign := by
    intro above σ x hσ hfinite
    obtain ⟨u, hu, habs⟩ := exact_of_sign hσ
    obtain ⟨q, hq, -⟩ := exact_signed_size hu habs hfinite
    exact (isFinite_iff x).2 ⟨q, hq⟩
  half_div_infinity := by decide +kernel
  add_zero := fun _ hx => add_zero_of_ne hx
  isZero_add_zero := isZero_add_zero

/-! ## Signs -/

theorem lt_zero_eq_false_iff (x : Float) :
    NumberSystem.lt x NumberSystem.zero = false ↔ exact x = .nan ∨ AtLeastZero (exact x) := by
  rw [lt_eq, exact_systemZero]
  cases exact x with
  | finite q => simp [Exact.lt, AtLeastZero]
  | infinite side => simp [Exact.lt, AtLeastZero]
  | nan => simp [Exact.lt]

/-- Rounding does not lead below zero. -/
theorem Rounds.nan_or_atLeastZero {a b : Exact ℚ} (h : Rounds a b)
    (ha : a = .nan ∨ AtLeastZero a) : b = .nan ∨ AtLeastZero b := by
  rcases ha with rfl | ha
  · exact .inl h.eq_nan
  · exact .inr (h.atLeastZero ha)

theorem mul_self_nan_or_atLeastZero (a : Exact ℚ) :
    a.mul a = .nan ∨ AtLeastZero (a.mul a) := by
  cases a with
  | finite q => exact .inr (mul_self_nonneg q)
  | infinite side => exact .inr (by cases side <;> rfl)
  | nan => exact .inl rfl

theorem add_nan_or_atLeastZero {a b : Exact ℚ} (ha : a = .nan ∨ AtLeastZero a)
    (hb : b = .nan ∨ AtLeastZero b) : a.add b = .nan ∨ AtLeastZero (a.add b) := by
  rcases ha with rfl | ha
  · exact .inl rfl
  · rcases hb with rfl | hb
    · exact .inl (by cases a <;> rfl)
    · exact .inr (ha.add hb)

/-- Squares of doubles and their sums are not negative. -/
instance : LawfulSquares Float where
  zero := by
    rw [lt_zero_eq_false_iff, exact_systemZero]
    exact .inr le_rfl
  mul_self := fun x => (lt_zero_eq_false_iff _).2
    ((rounds_mul x x).nan_or_atLeastZero (mul_self_nan_or_atLeastZero _))
  add := by
    intro x y hx hy
    rw [lt_zero_eq_false_iff] at hx hy ⊢
    exact (rounds_add x y).nan_or_atLeastZero (add_nan_or_atLeastZero hx hy)
  ofInt? := by
    intro n x hn hx
    obtain ⟨k, rfl⟩ := Int.eq_ofNat_of_zero_le hn
    rw [lt_zero_eq_false_iff]
    rcases Nat.eq_zero_or_pos k with rfl | hk
    · cases hx
      exact .inr le_rfl
    · obtain ⟨q, hq, -, hone⟩ := exact_of_ofInt? hk hx
      rw [hq]
      exact .inr (zero_le_one.trans hone)

end Double
end PassiveAggressive

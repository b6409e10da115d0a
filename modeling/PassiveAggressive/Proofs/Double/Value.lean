import Mathlib.Tactic.Linarith
import PassiveAggressive.Proofs.Double.Parts
import PassiveAggressive.Proofs.Exact.Number
import PassiveAggressive.Proofs.Scalar.Real

/-!
# The exact value of a double

A double has a value among the exact numbers: a rational number, an infinity, or none
(`exact`).  Whatever does not round agrees with the exact numbers on these values: the
order (`lt_eq`), being zero (`isZero_eq`) and being finite (`isFinite_eq`).  Negative
zero has the value zero, and nothing below tells the two zeros apart.

The order is the only one of them that needs an argument.  Doubles are compared by
exponent first and by mantissa second, which is right because the parts are canonical:
of two positive doubles the one with the greater exponent is the greater.
-/

namespace PassiveAggressive
namespace Double

open Float.Model Float.Model.UnpackedFloat

/-- The value of parts of a double. -/
def partsExact : Parts → Exact ℚ
  | .finite s m e _ => .finite (s.apply m * (2 : ℚ) ^ e)
  | .zero _ => .finite 0
  | .infinity s => .infinite (s == .negative)
  | .notANumber => .nan

/-- The value of a double. -/
def exact (x : Float) : Exact ℚ := partsExact (parts x)

theorem exact_zero (negative : Bool) : exact (Number.zero negative) = .finite 0 := by
  cases negative <;> rfl

@[simp] theorem exact_systemZero : exact NumberSystem.zero = .finite 0 := exact_zero false

theorem exact_infinity (negative : Bool) :
    exact (Number.infinity negative) = .infinite negative := by
  cases negative <;> rfl

/-! ## Positive doubles -/

/-- A positive mantissa and exponent, as a number. -/
def magnitude (m : Nat) (e : Int) : ℚ := m * (2 : ℚ) ^ e

theorem magnitude_pos {m : Nat} (hm : 0 < m) (e : Int) : 0 < magnitude m e :=
  mul_pos (Nat.cast_pos.2 hm) (zpow_pos two_pos e)

theorem partsExact_positive {m : Nat} {e : Int} (hm : 0 < m) :
    partsExact (.finite .positive m e hm) = .finite (magnitude m e) := by
  simp [partsExact, magnitude, Sign.apply]

theorem partsExact_negative {m : Nat} {e : Int} (hm : 0 < m) :
    partsExact (.finite .negative m e hm) = .finite (-magnitude m e) := by
  simp [partsExact, magnitude, Sign.apply]

theorem magnitude_lt_iff (m₁ m₂ : Nat) (e : Int) :
    magnitude m₁ e < magnitude m₂ e ↔ m₁ < m₂ := by
  unfold magnitude
  rw [mul_lt_mul_iff_left₀ (zpow_pos two_pos e), Nat.cast_lt]

/-- A greater exponent makes the greater number. -/
theorem magnitude_lt_of_exponent_lt {m₁ m₂ : Nat} {e₁ e₂ : Int} (h₁ : m₁ < 2 ^ 53)
    (h₂ : 2 ^ 52 ≤ m₂) (he : e₁ < e₂) : magnitude m₁ e₁ < magnitude m₂ e₂ := by
  have hlow : magnitude m₁ e₁ < (2 : ℚ) ^ (e₁ + 53) := by
    rw [magnitude, zpow_add₀ two_ne_zero, mul_comm]
    refine mul_lt_mul_of_pos_left ?_ (zpow_pos two_pos e₁)
    exact_mod_cast h₁
  have hhigh : (2 : ℚ) ^ (e₂ + 52) ≤ magnitude m₂ e₂ := by
    rw [magnitude, zpow_add₀ two_ne_zero, mul_comm]
    refine mul_le_mul_of_nonneg_right ?_ (zpow_pos two_pos e₂).le
    exact_mod_cast h₂
  calc magnitude m₁ e₁ < (2 : ℚ) ^ (e₁ + 53) := hlow
    _ ≤ (2 : ℚ) ^ (e₂ + 52) := zpow_le_zpow_right₀ one_le_two (by omega)
    _ ≤ magnitude m₂ e₂ := hhigh

/-- **Exponent first, mantissa second** is the order of the values. -/
theorem compare_eq_lt_iff {m₁ m₂ : Nat} {e₁ e₂ : Int} {hm₁ : 0 < m₁} {hm₂ : 0 < m₂}
    (h₁ : Canonical (.finite .positive m₁ e₁ hm₁)) (h₂ : Canonical (.finite .positive m₂ e₂ hm₂)) :
    (compare e₁ e₂).then (compare m₁ m₂) = .lt ↔ magnitude m₁ e₁ < magnitude m₂ e₂ := by
  obtain ⟨hhi₁, he₁, hlo₁⟩ := h₁
  obtain ⟨hhi₂, he₂, hlo₂⟩ := h₂
  rcases lt_trichotomy e₁ e₂ with he | rfl | he
  · have hlt := magnitude_lt_of_exponent_lt hhi₁ (hlo₂.resolve_right (by omega)) he
    simp [compare_lt_iff_lt.2 he, hlt]
  · rw [magnitude_lt_iff, compare_eq_iff_eq.2 rfl]
    exact compare_lt_iff_lt
  · have hlt := magnitude_lt_of_exponent_lt hhi₂ (hlo₁.resolve_right (by omega)) he
    simp [compare_gt_iff_gt.2 he, hlt.le]

/-! ## What does not round -/

theorem canonical_positive {s : Sign} {m : Nat} {e : Int} {hm : 0 < m}
    (h : Canonical (.finite s m e hm)) : Canonical (.finite .positive m e hm) := h

/-- The order of canonical parts is the order of their values. -/
theorem lt_partsExact {u v : Parts} (hu : Canonical u) (hv : Canonical v) :
    UnpackedFloat.lt u v = (partsExact u).lt (partsExact v) := by
  have hlt : ∀ {o : Option Ordering} {p : Prop} [Decidable p], (o = some .lt ↔ p) →
      (o == some .lt) = decide p := fun h => by
    rw [Bool.eq_iff_iff, beq_iff_eq, decide_eq_true_iff, h]
  cases u with
  | notANumber => cases v <;> rfl
  | infinity s => cases s <;> cases v with
    | infinity t => cases t <;> rfl
    | _ => rfl
  | zero s => cases v with
    | notANumber => rfl
    | infinity t => cases t <;> rfl
    | zero t => simp [UnpackedFloat.lt, UnpackedFloat.compare, partsExact, Exact.lt]
    | finite t m e hm =>
      have hpos := magnitude_pos hm e
      cases t with
      | negative =>
        rw [partsExact_negative]
        simp [UnpackedFloat.lt, UnpackedFloat.compare, partsExact, Exact.lt, hpos.le]
      | positive =>
        rw [partsExact_positive]
        simp [UnpackedFloat.lt, UnpackedFloat.compare, partsExact, Exact.lt, hpos]
  | finite s m e hm =>
    have hpos := magnitude_pos hm e
    cases v with
    | notANumber => cases s <;> rfl
    | infinity t => cases s <;> cases t <;> rfl
    | zero t =>
      cases s with
      | negative =>
        rw [partsExact_negative]
        simp [UnpackedFloat.lt, UnpackedFloat.compare, partsExact, Exact.lt, hpos]
      | positive =>
        rw [partsExact_positive]
        simp [UnpackedFloat.lt, UnpackedFloat.compare, partsExact, Exact.lt, hpos.le]
    | finite t m' e' hm' =>
      have hpos' := magnitude_pos hm' e'
      cases s <;> cases t
      · rw [partsExact_negative, partsExact_negative]
        refine hlt ?_
        change some ((compare e e').then (compare m m')).swap = some .lt ↔ _
        rw [neg_lt_neg_iff, ← compare_eq_lt_iff (canonical_positive hv) (canonical_positive hu),
          Option.some_inj, Ordering.swap_then, Int.compare_swap, Nat.compare_swap]
      · rw [partsExact_negative, partsExact_positive]
        simp [UnpackedFloat.lt, UnpackedFloat.compare, Exact.lt]
        linarith
      · rw [partsExact_negative, partsExact_positive]
        simp [UnpackedFloat.lt, UnpackedFloat.compare, Exact.lt]
        linarith
      · rw [partsExact_positive, partsExact_positive]
        refine hlt ?_
        change some ((compare e e').then (compare m m')) = some .lt ↔ _
        rw [Option.some_inj, compare_eq_lt_iff hu hv]

/-- **The order of doubles** is the order of their values. -/
theorem lt_eq (x y : Float) : NumberSystem.lt x y = (exact x).lt (exact y) := by
  have h := lt_partsExact (canonical_parts x).1 (canonical_parts y).1
  change decide (x < y) = _
  unfold exact
  rw [← h, Bool.eq_iff_iff, decide_eq_true_iff]
  exact decide_eq_true_iff

theorem zero_lt_iff (x : Float) :
    NumberSystem.lt NumberSystem.zero x = true ↔
      (∃ q, exact x = .finite q ∧ 0 < q) ∨ exact x = .infinite false := by
  rw [lt_eq, exact_systemZero]
  cases exact x with
  | finite q => simp [Exact.lt]
  | infinite side => simp [Exact.lt]
  | nan => simp [Exact.lt]

/-- A double is zero if its value is. -/
theorem isZero_eq (x : Float) : NumberSystem.isZero x = (exact x).isZero := by
  change UnpackedFloat.beq (parts x) (.zero .positive) = (partsExact (parts x)).isZero
  cases parts x with
  | notANumber => rfl
  | infinity s => cases s <;> rfl
  | zero s => rfl
  | finite s m e hm =>
    have hpos := magnitude_pos hm e
    cases s with
    | negative =>
      rw [partsExact_negative]
      simp [UnpackedFloat.beq, UnpackedFloat.compare, Exact.isZero, hpos.ne']
    | positive =>
      rw [partsExact_positive]
      simp [UnpackedFloat.beq, UnpackedFloat.compare, Exact.isZero, hpos.ne']

theorem isFinite_eq (x : Float) : NumberSystem.isFinite x = (exact x).finite?.isSome := by
  change (parts x).isFinite = (partsExact (parts x)).finite?.isSome
  cases parts x <;> rfl

theorem isFinite_iff (x : Float) :
    NumberSystem.isFinite x = true ↔ ∃ q, exact x = .finite q := by
  rw [isFinite_eq]
  cases exact x with
  | finite q => exact ⟨fun _ => ⟨q, rfl⟩, fun _ => rfl⟩
  | infinite side => simp [Exact.finite?]
  | nan => simp [Exact.finite?]

theorem isZero_of_ne {x : Float} {q : ℚ} (hx : exact x = .finite q) (hq : q ≠ 0) :
    NumberSystem.isZero x = false := by
  rw [isZero_eq, hx]
  exact decide_eq_false hq

/-- Doubles are what the scalars rely on. -/
instance : LawfulNumberSystem Float where
  isZero_of_lt := by
    intro x h
    rw [lt_eq] at h
    rw [isZero_eq]
    change (exact (Number.zero false)).lt (exact x) = true at h
    rw [exact_zero] at h
    cases hx : exact x with
    | finite q =>
      rw [hx] at h
      have hq : 0 < q := of_decide_eq_true h
      exact decide_eq_false hq.ne'
    | infinite negative => rfl
    | nan => rfl
  exists_sign := by
    intro above
    cases above <;> exact ⟨_, rfl⟩

end Double
end PassiveAggressive

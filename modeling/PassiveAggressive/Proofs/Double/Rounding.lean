import Mathlib.Algebra.Order.Archimedean.Basic
import Mathlib.Algebra.Order.Field.Power
import Mathlib.Data.Rat.Cast.Order
import Mathlib.Tactic.Linarith
import Mathlib.Tactic.Positivity
import Mathlib.Tactic.Ring
import PassiveAggressive.Proofs.Exact.Number

/-!
# Rounding

What is left of the operations on doubles once signs, mantissas and exponents are
forgotten: a number `z` is replaced by a number `r` that is a multiple of a unit `2 ^ e`
and off by half a unit at most, where the unit is fine enough for 53 significant bits
(`Rounded`).  Which of two equally near numbers is taken is forgotten as well.

This is all the learner needs, because its statements about doubles are inequalities,
and inequalities with a number that a double can hold survive rounding:

* `Rounded.le_of_le` and `Rounded.ge_of_ge`: a number that is not beyond a
  `Representable` one is not rounded beyond it.
* `Rounded.abs_sub_le`: in the range of doubles rounding moves by at most half a unit of
  the greatest one.

`Rounds` says what becomes of the result of an operation, which may be infinite or none
before it is rounded and may be infinite only after.
-/

namespace PassiveAggressive
namespace Double

/-- The least power of two that no double reaches. -/
def beyond : ℚ := 2 ^ (1024 : ℤ)

/-- The greatest double. -/
def greatest : ℚ := 2 ^ (1024 : ℤ) - 2 ^ (971 : ℤ)

/-- Half a unit in the last place of the greatest double. -/
def halfUnit : ℚ := 2 ^ (970 : ℤ)

/-- A multiple of a power of two. -/
def MultipleOf (e : ℤ) (q : ℚ) : Prop := ∃ m : ℤ, q = m * 2 ^ e

/-- A number with 53 significant bits that is a multiple of the least unit. -/
def Representable (q : ℚ) : Prop := ∃ m e : ℤ, q = m * 2 ^ e ∧ |m| < 2 ^ 53 ∧ -1074 ≤ e

/-- A number rounded to a multiple of a unit that leaves it 53 significant bits. -/
def Rounded (z r : ℚ) : Prop :=
  ∃ e : ℤ, MultipleOf e r ∧ |r - z| ≤ 2 ^ e / 2 ∧ -1074 ≤ e ∧
    (e = -1074 ∨ (2 : ℚ) ^ (e + 52) ≤ |z|)

/-! ## Multiples of a unit -/

theorem MultipleOf.neg {e : ℤ} {q : ℚ} (h : MultipleOf e q) : MultipleOf e (-q) := by
  obtain ⟨m, rfl⟩ := h
  exact ⟨-m, by push_cast; ring⟩

theorem MultipleOf.mono {e f : ℤ} {q : ℚ} (h : MultipleOf f q) (he : e ≤ f) : MultipleOf e q := by
  obtain ⟨m, rfl⟩ := h
  refine ⟨m * 2 ^ (f - e).toNat, ?_⟩
  have hsplit : (2 : ℚ) ^ f = 2 ^ (f - e).toNat * 2 ^ e := by
    rw [← zpow_natCast, ← zpow_add₀ two_ne_zero, Int.toNat_of_nonneg (by omega)]
    congr 1
    omega
  rw [hsplit]
  push_cast
  ring

theorem multipleOf_two_zpow {e f : ℤ} (he : e ≤ f) : MultipleOf e ((2 : ℚ) ^ f) :=
  MultipleOf.mono ⟨1, by simp⟩ he

theorem MultipleOf.add_le {e : ℤ} {a b : ℚ} (ha : MultipleOf e a) (hb : MultipleOf e b)
    (hab : a < b) : a + 2 ^ e ≤ b := by
  obtain ⟨m, rfl⟩ := ha
  obtain ⟨n, rfl⟩ := hb
  have hpos : (0 : ℚ) < 2 ^ e := zpow_pos two_pos e
  have hmn : m < n := by
    have := lt_of_mul_lt_mul_right hab hpos.le
    exact_mod_cast this
  have hle : (m : ℚ) + 1 ≤ n := by exact_mod_cast hmn
  calc (m : ℚ) * 2 ^ e + 2 ^ e = (m + 1) * 2 ^ e := by ring
    _ ≤ n * 2 ^ e := mul_le_mul_of_nonneg_right hle hpos.le

theorem MultipleOf.sub {e : ℤ} {a b : ℚ} (ha : MultipleOf e a) (hb : MultipleOf e b) :
    MultipleOf e (a - b) := by
  obtain ⟨m, rfl⟩ := ha
  obtain ⟨n, rfl⟩ := hb
  exact ⟨m - n, by push_cast; ring⟩

theorem exists_two_zpow_le {z : ℚ} (hz : 2 ^ (-1074 : ℤ) ≤ z) :
    ∃ k : ℤ, -1074 ≤ k ∧ (2 : ℚ) ^ k ≤ z ∧ z < 2 ^ (k + 1) := by
  have hpos : 0 < z := (zpow_pos two_pos _).trans_le hz
  obtain ⟨k, hlow, hhigh⟩ := exists_mem_Ico_zpow hpos (one_lt_two : (1 : ℚ) < 2)
  have := (zpow_lt_zpow_iff_right₀ (one_lt_two : (1 : ℚ) < 2)).1 (hz.trans_lt hhigh)
  exact ⟨k, by omega, hlow, hhigh⟩

/-! ## Representable numbers -/

theorem representable_zero : Representable 0 := ⟨0, 0, by simp, by simp, by omega⟩

theorem Representable.neg {q : ℚ} (h : Representable q) : Representable (-q) := by
  obtain ⟨m, e, rfl, hm, he⟩ := h
  exact ⟨-m, e, by push_cast; ring, by rwa [abs_neg], he⟩

theorem Representable.abs {q : ℚ} (h : Representable q) : Representable |q| := by
  rcases abs_choice q with hq | hq
  · rwa [hq]
  · rw [hq]
    exact h.neg

theorem Representable.multipleOf {q : ℚ} (h : Representable q) : MultipleOf (-1074) q := by
  obtain ⟨m, e, rfl, -, he⟩ := h
  exact MultipleOf.mono ⟨m, rfl⟩ he

theorem representable_two_zpow {e : ℤ} (he : -1074 ≤ e) : Representable ((2 : ℚ) ^ e) :=
  ⟨1, e, by simp, by simp, he⟩

theorem representable_one : Representable 1 := by
  simpa using representable_two_zpow (e := 0) (by omega)

theorem greatest_eq : greatest = (2 ^ 53 - 1) * 2 ^ (971 : ℤ) := by
  have hsplit : (2 : ℚ) ^ (1024 : ℤ) = 2 ^ 53 * 2 ^ (971 : ℤ) := by
    rw [← zpow_natCast, ← zpow_add₀ two_ne_zero]
    rfl
  rw [greatest, hsplit, sub_mul, one_mul]

theorem representable_greatest : Representable greatest := by
  refine ⟨2 ^ 53 - 1, 971, ?_, by norm_num, by omega⟩
  have hcast : ((2 ^ 53 - 1 : ℤ) : ℚ) = 2 ^ 53 - 1 := by norm_num
  rw [greatest_eq, hcast]

theorem greatest_pos : 0 < greatest := by
  rw [greatest_eq]
  positivity

theorem one_le_greatest : 1 ≤ greatest := by
  rw [greatest_eq]
  exact one_le_mul_of_one_le_of_one_le (by norm_num) (one_le_zpow₀ one_le_two (by omega))

theorem halfUnit_pos : 0 < halfUnit := zpow_pos two_pos 970

theorem greatest_add_halfUnit : greatest + halfUnit + halfUnit = beyond := by
  have hunit : (2 : ℚ) ^ (971 : ℤ) = halfUnit + halfUnit := by
    rw [halfUnit, show (971 : ℤ) = 970 + 1 from rfl, zpow_add_one₀ two_ne_zero, mul_two]
  rw [greatest, beyond, hunit]
  ring

theorem greatest_lt_beyond : greatest < beyond := sub_lt_self _ (zpow_pos two_pos 971)

/-! ## Rounding -/

theorem Rounded.neg {z r : ℚ} (h : Rounded z r) : Rounded (-z) (-r) := by
  obtain ⟨e, hr, hz, he, hfine⟩ := h
  refine ⟨e, hr.neg, ?_, he, by rwa [abs_neg]⟩
  rwa [neg_sub_neg, abs_sub_comm]

theorem le_of_multipleOf {e : ℤ} {z r s : ℚ} (hr : MultipleOf e r) (hnear : |r - z| ≤ 2 ^ e / 2)
    (hs : MultipleOf e s) (hzs : z ≤ s) : r ≤ s := by
  by_contra hlt
  have hgap := hs.add_le hr (not_le.1 hlt)
  have hpos : (0 : ℚ) < 2 ^ e := zpow_pos two_pos e
  have := (abs_le.1 hnear).2
  linarith

/-- **A number that is not above a representable one** is not rounded above it. -/
theorem Rounded.le_of_le {z r s : ℚ} (h : Rounded z r) (hs : Representable s) (hzs : z ≤ s) :
    r ≤ s := by
  obtain ⟨e, hr, hnear, -, hfine⟩ := h
  obtain ⟨k, f, rfl, hk, hf⟩ := hs
  rcases le_or_gt e f with hef | hfe
  · exact le_of_multipleOf hr hnear (MultipleOf.mono ⟨k, rfl⟩ hef) hzs
  · -- the unit is coarser than that of `s`, so `s` is closer to zero than `z`
    have hbig : (2 : ℚ) ^ (e + 52) ≤ |z| := hfine.resolve_left (by omega)
    have hsmall : |(k : ℚ) * 2 ^ f| < 2 ^ (e + 52) := by
      have hk' : |(k : ℚ)| < 2 ^ 53 := by exact_mod_cast hk
      rw [abs_mul, abs_of_pos (zpow_pos two_pos f : (0 : ℚ) < 2 ^ f)]
      calc |(k : ℚ)| * 2 ^ f < 2 ^ (53 : ℤ) * 2 ^ f :=
            mul_lt_mul_of_pos_right (by exact_mod_cast hk') (zpow_pos two_pos f)
        _ = 2 ^ (53 + f) := (zpow_add₀ two_ne_zero _ _).symm
        _ ≤ 2 ^ (e + 52) := zpow_le_zpow_right₀ one_le_two (by omega)
    obtain ⟨hlow, hhigh⟩ := abs_lt.1 hsmall
    have hz : z ≤ -2 ^ (e + 52) := by
      rcases le_abs'.1 hbig with hz | hz
      · exact hz
      · linarith
    have := le_of_multipleOf hr hnear (multipleOf_two_zpow (by omega : e ≤ e + 52)).neg hz
    linarith

theorem Rounded.ge_of_ge {z r s : ℚ} (h : Rounded z r) (hs : Representable s) (hsz : s ≤ z) :
    s ≤ r :=
  neg_le_neg_iff.1 (h.neg.le_of_le hs.neg (neg_le_neg hsz))

theorem Rounded.eq_of_representable {z r : ℚ} (h : Rounded z r) (hz : Representable z) : r = z :=
  le_antisymm (h.le_of_le hz le_rfl) (h.ge_of_ge hz le_rfl)

theorem Rounded.nonneg {z r : ℚ} (h : Rounded z r) (hz : 0 ≤ z) : 0 ≤ r :=
  h.ge_of_ge representable_zero hz

theorem Rounded.nonpos {z r : ℚ} (h : Rounded z r) (hz : z ≤ 0) : r ≤ 0 :=
  h.le_of_le representable_zero hz

theorem Rounded.abs_le_of_abs_le {z r s : ℚ} (h : Rounded z r) (hs : Representable s)
    (hzs : |z| ≤ s) : |r| ≤ s := by
  obtain ⟨hlow, hhigh⟩ := abs_le.1 hzs
  exact abs_le.2 ⟨h.ge_of_ge hs.neg hlow, h.le_of_le hs hhigh⟩

/-- **Below the least power of two that is no double** rounding moves by at most half a unit of the
greatest one. -/
theorem Rounded.abs_sub_le {z r : ℚ} (h : Rounded z r) (hz : |z| < beyond) :
    |r - z| ≤ halfUnit := by
  obtain ⟨e, -, hnear, -, hfine⟩ := h
  have he : e ≤ 971 := by
    rcases hfine with rfl | hbig
    · omega
    · have := (zpow_lt_zpow_iff_right₀ (one_lt_two : (1 : ℚ) < 2)).1 (lt_of_le_of_lt hbig hz)
      omega
  have hunit : (2 : ℚ) ^ e ≤ 2 ^ (971 : ℤ) := zpow_le_zpow_right₀ one_le_two he
  have hhalf : (2 : ℚ) ^ (971 : ℤ) / 2 = halfUnit := by
    rw [halfUnit, show (971 : ℤ) = 970 + 1 from rfl, zpow_add_one₀ two_ne_zero]
    ring
  calc |r - z| ≤ 2 ^ e / 2 := hnear
    _ ≤ 2 ^ (971 : ℤ) / 2 := by linarith
    _ = halfUnit := hhalf

/-! ## The result of an operation -/

/-- What becomes of the result of an operation when it is rounded. -/
inductive Rounds : Exact ℚ → Exact ℚ → Prop
  | nan : Rounds .nan .nan
  | infinite (negative : Bool) : Rounds (.infinite negative) (.infinite negative)
  | finite {z r : ℚ} (h : Rounded z r) (hr : |r| < beyond) : Rounds (.finite z) (.finite r)
  | overflow {z r : ℚ} (h : Rounded z r) (hr : beyond ≤ |r|) :
      Rounds (.finite z) (.infinite (decide (z < 0)))

theorem Rounds.eq_nan {y : Exact ℚ} (h : Rounds .nan y) : y = .nan := by
  cases h
  rfl

theorem Rounds.eq_infinite {negative : Bool} {y : Exact ℚ} (h : Rounds (.infinite negative) y) :
    y = .infinite negative := by
  cases h
  rfl

theorem Rounds.exists_finite {z s : ℚ} {y : Exact ℚ} (h : Rounds (.finite z) y)
    (hs : Representable s) (hlt : s < beyond) (hz : |z| ≤ s) :
    ∃ r, y = .finite r ∧ Rounded z r := by
  cases h with
  | finite h hr => exact ⟨_, rfl, h⟩
  | overflow h hr => exact absurd (h.abs_le_of_abs_le hs hz) (not_le.2 (hlt.trans_le hr))

theorem greatest_lt_of_overflow {z r : ℚ} (h : Rounded z r) (hr : beyond ≤ |r|) :
    greatest < |z| := by
  by_contra hle
  have := h.abs_le_of_abs_le representable_greatest (not_lt.1 hle)
  exact absurd (hr.trans this) (not_le.2 greatest_lt_beyond)

/-! ## Signs -/

/-- Zero or more; no number is not. -/
def AtLeastZero : Exact ℚ → Prop
  | .finite q => 0 ≤ q
  | .infinite negative => negative = false
  | .nan => False

theorem AtLeastZero.add {a b : Exact ℚ} (ha : AtLeastZero a) (hb : AtLeastZero b) :
    AtLeastZero (a.add b) := by
  cases a with
  | nan => exact ha.elim
  | infinite s =>
    obtain rfl : s = false := ha
    cases b with
    | nan => exact hb.elim
    | infinite t =>
      obtain rfl : t = false := hb
      exact rfl
    | finite q => exact rfl
  | finite p =>
    cases b with
    | nan => exact hb.elim
    | infinite t => exact hb
    | finite q => exact add_nonneg ha hb

theorem Rounds.atLeastZero {a b : Exact ℚ} (h : Rounds a b) (ha : AtLeastZero a) :
    AtLeastZero b := by
  cases h with
  | nan => exact ha
  | infinite negative => exact ha
  | finite h hr => exact h.nonneg ha
  | overflow h hr => exact decide_eq_false (not_lt.2 ha)

end Double
end PassiveAggressive

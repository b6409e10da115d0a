import Mathlib.Tactic.LinearCombination
import PassiveAggressive.Proofs.Double.Nearest
import PassiveAggressive.Proofs.Scalar.StepSize

/-!
# The increments of the weights

A step size is checked to be finite before the weights are moved, and the product of the
step size and a value is not.  Yet the product does not overflow, as long as the loss has
not: the step size is at most the loss divided by something that is at least the square
of the value.

Without rounding this is `l / v ^ 2 * v ≤ l`.  With rounding there are three cases
(`share_mul_le`).  A value of at most one makes the step size no greater.  For a value of
two or more there is a factor of two to spare, which is more than rounding takes.
Between one and two there is nothing to spare but the distance of the value from one,
and it turns out to be enough: `v ^ 2` is at least `2 * v - 1`, which is a double, and in
the last place of the quotient less is gained than is lost by the division.

* `isFinite_increment`: a coefficient times a value that its step size can move is finite.
* `of_isFinite_sizeIn`: what remains is an infinite loss with a finite cap.
-/

namespace PassiveAggressive
namespace Double

/-! ## A share of the loss -/

/-- A double of at least one is a multiple of the unit of one. -/
theorem Representable.multipleOf_of_one_le {v : ℚ} (h : Representable v) (hv : 1 ≤ v) :
    MultipleOf (-52) v := by
  obtain ⟨m, e, rfl, hm, -⟩ := h
  refine MultipleOf.mono ⟨m, rfl⟩ ?_
  by_contra he
  have hpos : (0 : ℚ) < 2 ^ e := zpow_pos two_pos e
  have hm' : (m : ℚ) < 2 ^ (53 : ℤ) := by exact_mod_cast (abs_lt.1 hm).2
  have hlt : (m : ℚ) * 2 ^ e < 1 := by
    calc (m : ℚ) * 2 ^ e < 2 ^ (53 : ℤ) * 2 ^ e := mul_lt_mul_of_pos_right hm' hpos
      _ = 2 ^ (53 + e) := (zpow_add₀ two_ne_zero _ _).symm
      _ ≤ 2 ^ (0 : ℤ) := zpow_le_zpow_right₀ one_le_two (by omega)
      _ = 1 := zpow_zero 2
  exact absurd hlt (not_lt.2 hv)

theorem Representable.two_mul {q : ℚ} (h : Representable q) : Representable (2 * q) := by
  obtain ⟨m, e, rfl, hm, he⟩ := h
  refine ⟨m, e + 1, ?_, hm, by omega⟩
  rw [zpow_add_one₀ two_ne_zero]
  ring

/-- The tangent of the square at one, which is a double where the value is one. -/
theorem representable_two_mul_sub_one {v : ℚ} (h : Representable v) (hv : 1 ≤ v) (hv2 : v < 2) :
    Representable (2 * v - 1) := by
  obtain ⟨k, rfl⟩ := h.multipleOf_of_one_le hv
  have hunit : (2 : ℚ) ^ (-52 : ℤ) = 2 ^ (-51 : ℤ) / 2 := by norm_num
  have hone : (2 ^ 51 : ℚ) * 2 ^ (-51 : ℤ) = 1 := by norm_num
  have hlow : (2 ^ 52 : ℤ) ≤ k := by
    have : (2 ^ 52 : ℚ) ≤ k := by
      rw [hunit] at hv
      norm_num at hv ⊢
      linarith
    exact_mod_cast this
  have hhigh : k < (2 ^ 53 : ℤ) := by
    have : (k : ℚ) < 2 ^ 53 := by
      rw [hunit] at hv2
      norm_num at hv2 ⊢
      linarith
    exact_mod_cast this
  refine ⟨k - 2 ^ 51, -51, ?_, ?_, by omega⟩
  · rw [hunit]
    push_cast
    linear_combination -hone
  · rw [abs_lt]
    constructor <;> omega

theorem Rounded.le_two_mul {z r : ℚ} (h : Rounded z r) (hz : 2 ^ (-1074 : ℤ) ≤ z) : r ≤ 2 * z := by
  obtain ⟨k, hk, hlow, hhigh⟩ := exists_two_zpow_le hz
  have hr := h.le_of_le (representable_two_zpow (by omega)) hhigh.le
  rw [zpow_add_one₀ two_ne_zero] at hr
  linarith

theorem greatest_eq_halfUnit : greatest = (2 ^ 54 - 2) * halfUnit := by
  have hunit : (2 : ℚ) ^ (971 : ℤ) = 2 * halfUnit := by
    rw [halfUnit, show (971 : ℤ) = 970 + 1 from rfl, zpow_add_one₀ two_ne_zero]
    ring
  rw [greatest_eq, hunit]
  ring

variable {l v d q r : ℚ}

/-- A value of two or more has a factor of two to spare. -/
theorem share_mul_le_of_two_le (hl : 0 ≤ l) (hlmax : l ≤ greatest) (hv : Representable v)
    (hv2 : 2 ≤ v) (hvmax : v ≤ greatest) (hq : Rounded (v * v) q) (hqd : q ≤ d)
    (hr : Rounded (l / d) r) : r * v ≤ greatest := by
  have hq2 : 2 * v ≤ q := hq.ge_of_ge hv.two_mul (mul_le_mul_of_nonneg_right hv2 (by linarith))
  have hvpos : 0 < v := by linarith
  have hshare : l / d ≤ l / (2 * v) := div_le_div_of_nonneg_left hl (by linarith) (by linarith)
  rcases le_total (2 ^ (-1074 : ℤ)) (l / d) with hlarge | hsmall
  · have hr2 := hr.le_two_mul hlarge
    calc r * v ≤ 2 * (l / (2 * v)) * v := mul_le_mul_of_nonneg_right (by linarith) hvpos.le
      _ = l := by field_simp
      _ ≤ greatest := hlmax
  · have hr1 := hr.le_of_le (representable_two_zpow le_rfl) hsmall
    have hleast : (2 : ℚ) ^ (-1074 : ℤ) ≤ 1 := zpow_le_one_of_nonpos₀ one_le_two (by omega)
    calc r * v ≤ 1 * v := mul_le_mul_of_nonneg_right (hr1.trans hleast) hvpos.le
      _ = v := one_mul v
      _ ≤ greatest := hvmax

/-- Between one and two the division takes away more than rounding gives back. -/
theorem share_mul_le_of_lt_two (hl : 0 ≤ l) (hlrep : Representable l) (hlmax : l ≤ greatest)
    (hv : Representable v) (hv1 : 1 < v) (hv2 : v < 2) (hq : Rounded (v * v) q) (hqd : q ≤ d)
    (hr : Rounded (l / d) r) : r * v ≤ greatest := by
  have htangent : 2 * v - 1 ≤ v * v := by nlinarith [sq_nonneg (v - 1)]
  have hd : 2 * v - 1 ≤ d :=
    (hq.ge_of_ge (representable_two_mul_sub_one hv hv1.le hv2) htangent).trans hqd
  have hdpos : 0 < d := by linarith
  have hpos := halfUnit_pos
  rcases le_total (2 * l) greatest with hsmall | hlarge
  · -- the quotient is not greater than the loss, and twice the loss is still a double
    have hrl : r ≤ l := hr.le_of_le hlrep (div_le_self hl (by linarith))
    calc r * v ≤ l * 2 := mul_le_mul hrl hv2.le (by linarith) hl
      _ ≤ greatest := by linarith
  · have hshare : l / d ≤ l / (2 * v - 1) := div_le_div_of_nonneg_left hl (by linarith) hd
    have hone : l / d ≤ l := div_le_self hl (by linarith)
    have hnear : r - l / d ≤ halfUnit := by
      refine (le_abs_self _).trans (hr.abs_sub_le ?_)
      rw [abs_of_nonneg (div_nonneg hl hdpos.le)]
      exact hone.trans_lt (hlmax.trans_lt greatest_lt_beyond)
    -- `t` is the distance of the value from one
    obtain ⟨t, rfl⟩ : ∃ t, v = 1 + t := ⟨v - 1, by ring⟩
    have ht : (2 : ℚ) ^ (-52 : ℤ) ≤ t := by
      have hmultiple : MultipleOf (-52) (1 : ℚ) := by
        simpa using multipleOf_two_zpow (e := -52) (f := 0) (by omega)
      have := hmultiple.add_le (hv.multipleOf_of_one_le hv1.le) hv1
      linarith
    have hloss : (2 ^ 53 - 1) * halfUnit ≤ l := by
      rw [greatest_eq_halfUnit] at hlarge
      linarith
    have hgain : halfUnit * ((1 + t) * (1 + 2 * t)) ≤ l * t := by
      have htpos : 0 < t := (zpow_pos two_pos _).trans_le ht
      have hunit : (2 : ℚ) ^ (-52 : ℤ) = 1 / 2 ^ 52 := by norm_num
      have hfive : (1 + t) * (1 + 2 * t) ≤ 1 + 5 * t := by nlinarith
      have hmany : 1 + 5 * t ≤ (2 ^ 53 - 1) * t := by
        rw [hunit] at ht
        linarith
      calc halfUnit * ((1 + t) * (1 + 2 * t)) ≤ halfUnit * ((2 ^ 53 - 1) * t) :=
            mul_le_mul_of_nonneg_left (hfive.trans hmany) hpos.le
        _ = (2 ^ 53 - 1) * halfUnit * t := by ring
        _ ≤ l * t := mul_le_mul_of_nonneg_right hloss htpos.le
    have hd' : (0 : ℚ) < 1 + 2 * t := by linarith
    calc r * (1 + t) ≤ (l / (1 + 2 * t) + halfUnit) * (1 + t) := by
          refine mul_le_mul_of_nonneg_right ?_ (by linarith)
          rw [show 2 * (1 + t) - 1 = 1 + 2 * t from by ring] at hshare
          linarith
      _ = l - (l * t - halfUnit * ((1 + t) * (1 + 2 * t))) / (1 + 2 * t) := by
          field_simp
          ring
      _ ≤ l := sub_le_self _ (div_nonneg (sub_nonneg.2 hgain) hd'.le)
      _ ≤ greatest := hlmax

/-- **The share of the loss times the value** is no greater than a double, if the loss is shared by
at least the square of the value, rounded. -/
theorem share_mul_le (hl : 0 ≤ l) (hlrep : Representable l) (hlmax : l ≤ greatest)
    (hv : Representable v) (hv1 : 1 < |v|) (hvmax : |v| ≤ greatest) (hq : Rounded (v * v) q)
    (hqd : q ≤ d) (hr : Rounded (l / d) r) : r * |v| ≤ greatest := by
  rw [← abs_mul_abs_self v] at hq
  rcases lt_or_ge |v| 2 with hv2 | hv2
  · exact share_mul_le_of_lt_two hl hlrep hlmax hv.abs hv1 hv2 hq hqd hr
  · exact share_mul_le_of_two_le hl hlmax hv.abs hv2 hvmax hq hqd hr

/-! ## Step sizes -/

/-- The number is at least the square of the value, rounded. -/
def AtLeastSquare (v : ℚ) (n : Exact ℚ) : Prop :=
  n = .infinite false ∨ ∃ d q, n = .finite d ∧ Rounded (v * v) q ∧ q ≤ d

/-- The product with the value is no greater than a double. -/
def Movable (v : ℚ) (e : Exact ℚ) : Prop := ∃ η, e = .finite η ∧ 0 ≤ η ∧ η * |v| ≤ greatest

theorem one_le_square (hv : 1 < |v|) (hq : Rounded (v * v) q) : 1 ≤ q := by
  refine hq.ge_of_ge representable_one ?_
  rw [← abs_mul_abs_self v]
  nlinarith

theorem movable_of_abs_le_one {x : Float} {η : ℚ} (hx : exact x = .finite η) (hη : 0 ≤ η)
    (hv : |v| ≤ 1) : Movable v (exact x) := by
  refine ⟨η, hx, hη, ?_⟩
  calc η * |v| ≤ η * 1 := mul_le_mul_of_nonneg_left hv hη
    _ = η := mul_one η
    _ ≤ |η| := le_abs_self η
    _ ≤ greatest := (representable_of_exact hx).2

/-- **The ratio of a finite loss and a norm** is movable, or it is infinite and the value at most
one. -/
theorem movable_ratio {L n : Float} (hL : exact L = .finite l) (hl : 0 ≤ l) (hv : Representable v)
    (hvmax : |v| ≤ greatest) (hn : AtLeastSquare v (exact n)) :
    exact (ratio L n) = .infinite false ∧ |v| ≤ 1 ∨ Movable v (exact (ratio L n)) := by
  obtain ⟨hlrep, hlmax⟩ := representable_of_exact hL
  have hlmax := (le_abs_self l).trans hlmax
  unfold ratio
  cases hzero : NumberSystem.isZero n with
  | true =>
    rw [if_pos rfl]
    refine .inl ⟨exact_infinity false, ?_⟩
    rw [isZero_eq] at hzero
    rcases hn with hn | ⟨d, q, hn, hq, hqd⟩
    · rw [hn] at hzero
      cases hzero
    · rw [hn] at hzero
      obtain rfl : d = 0 := of_decide_eq_true hzero
      by_contra hv1
      have := one_le_square (not_le.1 hv1) hq
      linarith
  | false =>
    rw [if_neg Bool.false_ne_true]
    have hdiv := rounds_div L hzero
    rw [hL] at hdiv
    rcases hn with hn | ⟨d, q, hn, hq, hqd⟩
    · rw [hn] at hdiv
      obtain ⟨r, hr, hround⟩ := hdiv.exists_finite representable_greatest greatest_lt_beyond
        (by simpa using greatest_pos.le)
      obtain rfl := hround.eq_of_representable representable_zero
      exact .inr ⟨0, hr, le_rfl, by simpa using greatest_pos.le⟩
    · have hdpos : 0 < d := by
        have hne : d ≠ 0 := by
          rw [isZero_eq, hn] at hzero
          exact of_decide_eq_false hzero
        exact lt_of_le_of_ne ((hq.nonneg (mul_self_nonneg v)).trans hqd) hne.symm
      have hshare : 0 ≤ l / d := div_nonneg hl hdpos.le
      rw [hn] at hdiv
      change Rounds (.finite (l / d)) _ at hdiv
      rcases le_or_gt |v| 1 with hv1 | hv1
      · generalize hx : exact (NumberSystem.div L n) = x at hdiv
        cases hdiv with
        | finite h hr =>
          rw [← hx]
          exact .inr (movable_of_abs_le_one hx (h.nonneg hshare) hv1)
        | overflow h hr => exact .inl ⟨by rw [decide_eq_false (not_lt.2 hshare)], hv1⟩
      · have hd1 : 1 ≤ d := (one_le_square hv1 hq).trans hqd
        have hle : |l / d| ≤ greatest := by
          rw [abs_of_nonneg hshare]
          exact (div_le_self hl hd1).trans hlmax
        obtain ⟨r, hr, hround⟩ := hdiv.exists_finite representable_greatest greatest_lt_beyond hle
        exact .inr ⟨r, hr, hround.nonneg hshare,
          share_mul_le hl hlrep hlmax hv hv1 hvmax hq hqd hround⟩

/-! ## Norms -/

theorem AtLeastSquare.atLeastZero {n : Exact ℚ} (h : AtLeastSquare v n) : AtLeastZero n := by
  rcases h with rfl | ⟨d, q, rfl, hq, hqd⟩
  · exact rfl
  · exact (hq.nonneg (mul_self_nonneg v)).trans hqd

theorem atLeastSquare_mul {x : Float} (hx : exact x = .finite v) :
    AtLeastSquare v (exact (NumberSystem.mul x x)) := by
  have hmul := rounds_mul x x
  rw [hx] at hmul
  change Rounds (.finite (v * v)) _ at hmul
  generalize exact (NumberSystem.mul x x) = n at hmul
  cases hmul with
  | finite h hr => exact .inr ⟨_, _, rfl, h, le_rfl⟩
  | overflow h hr =>
    left
    rw [decide_eq_false (not_lt.2 (mul_self_nonneg v))]

/-- What is at least the square remains so when something is added. -/
theorem AtLeastSquare.of_rounds {a b x : Exact ℚ} (ha : AtLeastSquare v a)
    (hrep : ∀ d, a = .finite d → Representable d) (hb : AtLeastZero b) (h : Rounds (a.add b) x) :
    AtLeastSquare v x := by
  have hzero := h.atLeastZero (ha.atLeastZero.add hb)
  rcases ha with rfl | ⟨d, q, rfl, hq, hqd⟩
  · left
    cases b with
    | nan => exact hb.elim
    | infinite side =>
      obtain rfl : side = false := hb
      exact h.eq_infinite
    | finite p => exact h.eq_infinite
  · cases b with
    | nan => exact hb.elim
    | infinite side =>
      obtain rfl : side = false := hb
      exact .inl h.eq_infinite
    | finite p =>
      change Rounds (.finite (d + p)) _ at h
      cases h with
      | finite h hr =>
        exact .inr ⟨_, q, rfl, hq, hqd.trans (h.ge_of_ge (hrep d rfl) (le_add_of_nonneg_right hb))⟩
      | overflow h hr =>
        left
        rw [show decide (d + p < 0) = false from hzero]

theorem AtLeastSquare.add {n h : Float} (hn : AtLeastSquare v (exact n))
    (hh : AtLeastZero (exact h)) : AtLeastSquare v (exact (NumberSystem.add n h)) :=
  hn.of_rounds (fun _ hd => (representable_of_exact hd).1) hh (rounds_add n h)

/-- The square may as well be what is added. -/
theorem AtLeastSquare.add_left {n h : Float} (hn : AtLeastZero (exact n))
    (hh : AtLeastSquare v (exact h)) : AtLeastSquare v (exact (NumberSystem.add n h)) := by
  have hsum := rounds_add n h
  rw [Exact.add_comm] at hsum
  exact hh.of_rounds (fun _ hd => (representable_of_exact hd).1) hn hsum

/-! ## The step size and the value -/

/-- The softening of a step size is not negative. -/
theorem atLeastZero_softening {c : Float} (hc : NumberSystem.lt NumberSystem.zero c = true) :
    AtLeastZero (exact (NumberSystem.div NumberSystem.half c)) := by
  refine (rounds_div NumberSystem.half (LawfulNumberSystem.isZero_of_lt hc)).atLeastZero ?_
  have hfinite : NumberSystem.isFinite (NumberSystem.half : Float) = true := by decide +kernel
  have hpositive : NumberSystem.lt (NumberSystem.zero : Float) NumberSystem.half = true := by
    decide +kernel
  obtain ⟨h, hh, hpos⟩ : ∃ h, exact NumberSystem.half = .finite h ∧ 0 < h := by
    rcases (zero_lt_iff _).1 hpositive with hhalf | hinfinite
    · exact hhalf
    · rw [isFinite_eq, hinfinite] at hfinite
      cases hfinite
  rw [hh]
  rcases (zero_lt_iff c).1 hc with ⟨q, hexact, hq⟩ | hexact
  · rw [hexact]
    exact div_nonneg hpos.le hq.le
  · rw [hexact]
    exact le_refl (0 : ℚ)

variable {rule : StepRule} {L n c : Float}

/-- **A finite step size for a finite loss** moves every value that the norm is at least the square
of by no more than a double. -/
theorem movable_sizeIn (hL : exact L = .finite l) (hl : 0 ≤ l)
    (hc : NumberSystem.lt NumberSystem.zero c = true) (hv : Representable v)
    (hvmax : |v| ≤ greatest) (hn : AtLeastSquare v (exact n))
    (hfinite : NumberSystem.isFinite (rule.sizeIn L n c) = true) :
    Movable v (exact (rule.sizeIn L n c)) := by
  obtain ⟨η, hη⟩ := (isFinite_iff _).1 hfinite
  cases rule with
  | softened =>
    rcases movable_ratio hL hl hv hvmax (hn.add (atLeastZero_softening hc)) with ⟨hinfinite, -⟩ | h
    · cases hinfinite.symm.trans hη
    · exact h
  | capped =>
    have hratio := movable_ratio hL hl hv hvmax hn
    unfold StepRule.sizeIn at hη ⊢
    simp only at hη ⊢
    split at hη
    · rename_i hlt
      rw [if_pos hlt]
      rcases hratio with ⟨hinfinite, -⟩ | h
      · cases hinfinite.symm.trans hη
      · exact h
    · rename_i hlt
      rw [if_neg hlt]
      have hpos : 0 < η := by
        rcases (zero_lt_iff c).1 hc with ⟨q, hexact, hq⟩ | hexact
        · cases hη.symm.trans hexact
          exact hq
        · cases hη.symm.trans hexact
      rcases hratio with ⟨-, hv1⟩ | ⟨r, hr, hr0, hrv⟩
      · exact movable_of_abs_le_one hη hpos.le hv1
      · -- the cap is in force, and the ratio is no less
        rw [lt_eq, hr, hη] at hlt
        have hle : η ≤ r := not_lt.1 fun h => hlt (decide_eq_true h)
        exact ⟨η, hη, hpos.le, (mul_le_mul_of_nonneg_right hle (abs_nonneg v)).trans hrv⟩

/-- The ratio of an infinite loss and a norm is infinite or no number. -/
theorem ratio_of_infinite (hL : exact L = .infinite false) (hn : AtLeastZero (exact n)) :
    exact (ratio L n) = .infinite false ∨ exact (ratio L n) = .nan := by
  unfold ratio
  cases hzero : NumberSystem.isZero n with
  | true => exact .inl (exact_infinity false)
  | false =>
    rw [if_neg Bool.false_ne_true]
    have hdiv := rounds_div L hzero
    rw [hL] at hdiv
    cases hexact : exact n with
    | nan =>
      rw [hexact] at hn
      exact hn.elim
    | infinite side =>
      rw [hexact] at hdiv
      exact .inr hdiv.eq_nan
    | finite d =>
      rw [hexact] at hn hdiv
      have hsign : (Exact.infinite false).div (.finite d) = (.infinite false : Exact ℚ) := by
        simp [Exact.div, not_lt.2 (hn : 0 ≤ d)]
      rw [hsign] at hdiv
      exact .inl hdiv.eq_infinite

/-- **An infinite loss** has a finite step size only under a finite cap. -/
theorem of_isFinite_sizeIn (hL : exact L = .infinite false) (hn : AtLeastZero (exact n))
    (hc : NumberSystem.lt NumberSystem.zero c = true)
    (hfinite : NumberSystem.isFinite (rule.sizeIn L n c) = true) :
    rule = .capped ∧ NumberSystem.isFinite c = true := by
  obtain ⟨η, hη⟩ := (isFinite_iff _).1 hfinite
  cases rule with
  | softened =>
    have hdenominator : AtLeastZero
        (exact (NumberSystem.add n (NumberSystem.div NumberSystem.half c))) :=
      (rounds_add _ _).atLeastZero (hn.add (atLeastZero_softening hc))
    rcases ratio_of_infinite hL hdenominator with h | h
    · cases h.symm.trans hη
    · cases h.symm.trans hη
  | capped =>
    refine ⟨rfl, (isFinite_iff c).2 ⟨η, ?_⟩⟩
    have hlt : NumberSystem.lt (ratio L n) c = false := by
      rw [lt_eq]
      rcases ratio_of_infinite hL hn with h | h
      · rw [h]
        cases exact c <;> rfl
      · rw [h]
        rfl
    rwa [StepRule.sizeIn, hlt, if_neg Bool.false_ne_true] at hη

/-! ## The signed step size and the value -/

/-- A finite signed step size is the step size with a sign. -/
theorem exact_signed_size {σ η : Float} {u : ℚ} (hσ : exact σ = .finite u) (hu : |u| = 1)
    (hfinite : NumberSystem.isFinite (NumberSystem.mul σ η) = true) :
    ∃ h, exact η = .finite h ∧ exact (NumberSystem.mul σ η) = .finite (u * h) := by
  obtain ⟨r, hr⟩ := (isFinite_iff _).1 hfinite
  have hu0 : u ≠ 0 := by
    rintro rfl
    simp at hu
  have hmul := rounds_mul σ η
  rw [hσ, hr] at hmul
  cases hη : exact η with
  | nan =>
    rw [hη] at hmul
    cases hmul
  | infinite side =>
    rw [hη] at hmul
    simp only [Exact.mul, if_neg hu0] at hmul
    cases hmul
  | finite h =>
    rw [hη] at hmul
    obtain ⟨hrep, hle⟩ := representable_of_exact hη
    have hrep' : Representable (u * h) := by
      rcases (abs_eq one_pos.le).1 hu with rfl | rfl
      · rwa [one_mul]
      · rw [neg_one_mul]
        exact hrep.neg
    refine ⟨h, rfl, ?_⟩
    cases hmul with
    | finite hround hlt => rw [hr, hround.eq_of_representable hrep']

/-- **The increment is finite** if the step size is movable by the value. -/
theorem isFinite_increment {coeff x : Float} {u h : ℚ} (hcoeff : exact coeff = .finite (u * h))
    (hu : |u| = 1) (hx : exact x = .finite v) (hmovable : Movable v (.finite h)) :
    NumberSystem.isFinite (NumberSystem.mul coeff x) = true := by
  obtain ⟨_, heq, hnonneg, hle⟩ := hmovable
  cases heq
  have hmul := rounds_mul coeff x
  rw [hcoeff, hx] at hmul
  have habs : |u * h * v| ≤ greatest := by
    rwa [abs_mul, abs_mul, hu, one_mul, abs_of_nonneg hnonneg]
  obtain ⟨r, hr, -⟩ := hmul.exists_finite representable_greatest greatest_lt_beyond habs
  exact (isFinite_iff _).2 ⟨r, hr⟩

end Double
end PassiveAggressive

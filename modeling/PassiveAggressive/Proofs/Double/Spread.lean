import PassiveAggressive.Learner.Spread
import PassiveAggressive.Proofs.Double.Nearest

/-!
# The spread over doubles

The tracker adds to its sum the product of a value's distances from the old mean and
from the new one.  Over the numbers of a field the product is not negative because the
new mean lies between the old one and the value.  Rounding does not change that
(`mean_between`): the share by which the mean moves may be rounded up, but never to
more than the distance, since it is at most half of it and a power of two lies between.

So the sum never becomes negative by rounding.  It does by overflow.  A value so far
from the mean that their distance is infinite takes the mean to infinity on its side,
and is then at an infinite distance on the other side of it: the sum becomes negative
infinity.  The next value makes it none, and it remains none.  `SumState` lists what the
tracker can have come to, and `SumState.next` is the step from one value to the next.
-/

namespace PassiveAggressive
namespace Double

/-! ## The mean moves towards the value -/

/-- The share of a distance, both rounded, is not greater than the distance, if it is half of it
or less, or if the distance is a double and is not shared. -/
theorem share_le {z δ σ d : ℚ} (hunit : MultipleOf (-1074) z) (hz : 0 ≤ z)
    (hd : Representable z ∧ d = 1 ∨ 2 ≤ d) (hδ : Rounded z δ) (hσ : Rounded (δ / d) σ) :
    0 ≤ σ ∧ σ ≤ z := by
  have hδ0 : 0 ≤ δ := hδ.nonneg hz
  rcases hd with ⟨hrep, rfl⟩ | hd
  · obtain rfl := hδ.eq_of_representable hrep
    rw [div_one] at hσ
    obtain rfl := hσ.eq_of_representable hrep
    exact ⟨hz, le_rfl⟩
  · have hd0 : 0 < d := by linarith
    refine ⟨hσ.nonneg (div_nonneg hδ0 hd0.le), ?_⟩
    rcases hz.eq_or_lt with rfl | hzpos
    · obtain rfl := hδ.eq_of_representable representable_zero
      rw [zero_div] at hσ
      exact (hσ.eq_of_representable representable_zero).le
    · have hleast : (0 : ℚ) + 2 ^ (-1074 : ℤ) ≤ z := MultipleOf.add_le ⟨0, by simp⟩ hunit hzpos
      rw [zero_add] at hleast
      obtain ⟨k, hk, hlow, hhigh⟩ := exists_two_zpow_le hleast
      have hδle : δ ≤ 2 ^ (k + 1) := hδ.le_of_le (representable_two_zpow (by omega)) hhigh.le
      have hshare : δ / d ≤ 2 ^ k := by
        rw [div_le_iff₀ hd0]
        rw [zpow_add_one₀ two_ne_zero] at hδle
        exact hδle.trans (mul_le_mul_of_nonneg_left hd (zpow_pos two_pos k).le)
      exact (hσ.le_of_le (representable_two_zpow hk) hshare).trans hlow

theorem moved_le {y m δ σ d : ℚ} (hy : Representable y) (hm : Representable m)
    (hd : m = 0 ∧ d = 1 ∨ 2 ≤ d) (hδ : Rounded (y - m) δ) (hσ : Rounded (δ / d) σ)
    (hmy : m ≤ y) : m ≤ m + σ ∧ m + σ ≤ y := by
  have hd' : Representable (y - m) ∧ d = 1 ∨ 2 ≤ d := by
    refine hd.imp_left fun h => ⟨?_, h.2⟩
    rwa [h.1, sub_zero]
  obtain ⟨hσ0, hσle⟩ := share_le (hy.multipleOf.sub hm.multipleOf) (sub_nonneg.2 hmy) hd' hδ hσ
  exact ⟨by linarith, by linarith⟩

theorem le_moved {y m δ σ d : ℚ} (hy : Representable y) (hm : Representable m)
    (hd : m = 0 ∧ d = 1 ∨ 2 ≤ d) (hδ : Rounded (y - m) δ) (hσ : Rounded (δ / d) σ)
    (hym : y ≤ m) : y ≤ m + σ ∧ m + σ ≤ m := by
  have hδ' : Rounded (-y - -m) (-δ) := by
    have := hδ.neg
    rwa [neg_sub, ← neg_sub_neg] at this
  have hσ' : Rounded (-δ / d) (-σ) := by
    have := hσ.neg
    rwa [← neg_div] at this
  obtain ⟨hlow, hhigh⟩ := moved_le hy.neg hm.neg (hd.imp_left fun h => ⟨by rw [h.1, neg_zero], h.2⟩)
    hδ' hσ' (neg_le_neg hym)
  exact ⟨by linarith, by linarith⟩

theorem one_le_of_count {first : Prop} {d : ℚ} (hd : first ∧ d = 1 ∨ 2 ≤ d) : 1 ≤ d := by
  rcases hd with ⟨-, rfl⟩ | hd
  · exact le_rfl
  · linarith

/-- **The mean moves towards the value** and not beyond it, and remains a double. -/
theorem mean_between {y m δ d : ℚ} {share mean : Exact ℚ} (hy : Representable y)
    (hyle : |y| ≤ greatest) (hm : Representable m) (hmle : |m| ≤ greatest)
    (hd : m = 0 ∧ d = 1 ∨ 2 ≤ d) (hδ : Rounded (y - m) δ) (hδle : |δ| ≤ greatest)
    (hshare : Rounds ((Exact.finite δ).div (.finite d)) share)
    (hmean : Rounds ((Exact.finite m).add share) mean) :
    ∃ μ, mean = .finite μ ∧ (m ≤ μ ∧ μ ≤ y ∨ y ≤ μ ∧ μ ≤ m) := by
  have hd1 := one_le_of_count hd
  have hδd : |δ / d| ≤ greatest := by
    rw [abs_div, abs_of_pos (by linarith : 0 < d)]
    exact (div_le_self (abs_nonneg δ) hd1).trans hδle
  obtain ⟨σ, rfl, hσ⟩ := hshare.exists_finite representable_greatest greatest_lt_beyond hδd
  obtain ⟨hylow, hyhigh⟩ := abs_le.1 hyle
  obtain ⟨hmlow, hmhigh⟩ := abs_le.1 hmle
  rcases le_total m y with hmy | hym
  · obtain ⟨hlow, hhigh⟩ := moved_le hy hm hd hδ hσ hmy
    obtain ⟨μ, rfl, hμ⟩ := hmean.exists_finite representable_greatest greatest_lt_beyond
      (abs_le.2 ⟨by linarith, by linarith⟩)
    exact ⟨μ, rfl, .inl ⟨hμ.ge_of_ge hm hlow, hμ.le_of_le hy hhigh⟩⟩
  · obtain ⟨hlow, hhigh⟩ := le_moved hy hm hd hδ hσ hym
    obtain ⟨μ, rfl, hμ⟩ := hmean.exists_finite representable_greatest greatest_lt_beyond
      (abs_le.2 ⟨by linarith, by linarith⟩)
    exact ⟨μ, rfl, .inr ⟨hμ.ge_of_ge hy hlow, hμ.le_of_le hm hhigh⟩⟩

/-! ## One value -/

/-- The mean after a value, given the double of the count. -/
def nextMean (m y d : Float) : Float :=
  NumberSystem.add m (NumberSystem.div (NumberSystem.sub y m) d)

/-- The sum of squared differences after a value. -/
def nextSum (m s y d : Float) : Float :=
  NumberSystem.add s
    (NumberSystem.mul (NumberSystem.sub y m) (NumberSystem.sub y (nextMean m y d)))

/-! ## What the sum can have come to -/

/-- **The product of the distances is not negative**, because the new mean is not beyond the
value. -/
theorem product_atLeastZero {y m μ δ : ℚ} {δ' p : Exact ℚ}
    (hμ : m ≤ μ ∧ μ ≤ y ∨ y ≤ μ ∧ μ ≤ m) (hδ : Rounded (y - m) δ)
    (hδ' : Rounds (.finite (y - μ)) δ') (hp : Rounds ((Exact.finite δ).mul δ') p) :
    AtLeastZero p := by
  refine hp.atLeastZero ?_
  cases hδ' with
  | @finite _ r h' hr =>
    change 0 ≤ δ * r
    rcases hμ with ⟨hm, hy⟩ | ⟨hy, hm⟩
    · exact mul_nonneg (hδ.nonneg (by linarith)) (h'.nonneg (by linarith))
    · exact mul_nonneg_of_nonpos_of_nonpos (hδ.nonpos (by linarith)) (h'.nonpos (by linarith))
  | overflow h' hr =>
    -- the distance from the old mean is even greater, so it is not zero
    have hlarge := greatest_lt_of_overflow h' hr
    have hpos := greatest_pos
    rcases hμ with ⟨hm, hy⟩ | ⟨hy, hm⟩
    · rw [abs_of_nonneg (by linarith)] at hlarge
      have hδpos : 0 < δ :=
        hpos.trans_le (hδ.ge_of_ge representable_greatest (by linarith))
      have hsign : decide (y - μ < 0) = false := decide_eq_false (by linarith)
      rw [hsign]
      simp [Exact.mul, AtLeastZero, hδpos.ne', hδpos.not_gt]
    · rw [abs_of_nonpos (by linarith)] at hlarge
      have hδneg : δ < 0 := by
        have := hδ.le_of_le representable_greatest.neg (by linarith)
        linarith
      have hsign : decide (y - μ < 0) = true := decide_eq_true (by linarith)
      rw [hsign]
      simp [Exact.mul, AtLeastZero, hδneg.ne, hδneg]

/-- What the mean and the sum of the tracker can have come to. -/
inductive SumState : Exact ℚ → Exact ℚ → Prop
  /-- Nothing has gone wrong, or the sum alone has overflowed. -/
  | regular {m : ℚ} {s : Exact ℚ} (hs : AtLeastZero s) : SumState (.finite m) s
  /-- The last value was too far from the mean. -/
  | negative {side : Bool} : SumState (.infinite side) (.infinite true)
  /-- Some value before was. -/
  | lost {m : Exact ℚ} : SumState m .nan

/-- What can have come of one value more: the distance overflowed or it did not. -/
theorem SumState.next_of_rounds {m s δ share mean δ' p sum : Exact ℚ} {y d : ℚ} (h : SumState m s)
    (hy : Representable y ∧ |y| ≤ greatest)
    (hm : ∀ q, m = .finite q → Representable q ∧ |q| ≤ greatest)
    (hδfinite : ∀ q, δ = .finite q → |q| ≤ greatest)
    (hd : m = .finite 0 ∧ d = 1 ∨ 2 ≤ d)
    (hδ : Rounds ((Exact.finite y).add m.neg) δ) (hshare : Rounds (δ.div (.finite d)) share)
    (hmean : Rounds (m.add share) mean) (hδ' : Rounds ((Exact.finite y).add mean.neg) δ')
    (hp : Rounds (δ.mul δ') p) (hsum : Rounds (s.add p) sum) :
    SumState mean sum ∧
    (sum = .infinite true ↔ s.finite?.isSome = true ∧ δ.finite?.isSome = false) := by
  cases h with
  | lost =>
    obtain rfl := hsum.eq_nan
    exact ⟨.lost, by simp [Exact.finite?]⟩
  | @negative side =>
    -- the mean moves from one infinity towards the other, and is none
    obtain rfl := hδ.eq_infinite
    obtain rfl := hshare.eq_infinite
    have hdneg : ¬ d < 0 := not_lt.2 (zero_le_one.trans (one_le_of_count hd))
    have hnan : (Exact.infinite side).add (.infinite ((!side) != decide (d < 0))) =
        (.nan : Exact ℚ) := by
      cases side <;> simp [Exact.add, hdneg]
    rw [hnan] at hmean
    obtain rfl := hmean.eq_nan
    obtain rfl := hδ'.eq_nan
    obtain rfl := hp.eq_nan
    obtain rfl := hsum.eq_nan
    exact ⟨.lost, by simp [Exact.finite?]⟩
  | @regular m s hs =>
    obtain ⟨hmrep, hmle⟩ := hm m rfl
    have hd' : m = 0 ∧ d = 1 ∨ 2 ≤ d := hd.imp_left fun h => ⟨Exact.finite.inj h.1, h.2⟩
    have hdneg : ¬ d < 0 := not_lt.2 (zero_le_one.trans (one_le_of_count hd))
    cases hδ with
    | @finite _ r hr hrlt =>
      rw [← sub_eq_add_neg] at hr
      obtain ⟨μ, rfl, hμ⟩ := mean_between hy.1 hy.2 hmrep hmle hd' hr (hδfinite r rfl) hshare hmean
      have hδ' : Rounds (.finite (y - μ)) δ' := by rwa [sub_eq_add_neg]
      have hsum' := hsum.atLeastZero (hs.add (product_atLeastZero hμ hr hδ' hp))
      refine ⟨.regular hsum', ?_⟩
      have hne : sum ≠ .infinite true := by
        rintro rfl
        cases hsum'
      simp [hne]
    | overflow hr hrge =>
      generalize decide (y + -m < 0) = side at hshare hp
      obtain rfl := hshare.eq_infinite
      have hside : (side != decide (d < 0)) = side := by simp [hdneg]
      rw [hside] at hmean
      obtain rfl := hmean.eq_infinite
      obtain rfl := hδ'.eq_infinite
      have hopposite : (Exact.infinite side).mul (.infinite !side) =
          (.infinite true : Exact ℚ) := by
        cases side <;> rfl
      rw [hopposite] at hp
      obtain rfl := hp.eq_infinite
      cases s with
      | nan => exact hs.elim
      | finite s =>
        obtain rfl := hsum.eq_infinite
        exact ⟨.negative, by simp [Exact.finite?]⟩
      | infinite t =>
        obtain rfl : t = false := hs
        obtain rfl := hsum.eq_nan
        exact ⟨.lost, by simp [Exact.finite?]⟩

/-- **One value more.**  The sum becomes negative exactly if it was finite and the value is too
far from the mean. -/
theorem SumState.next {m s y d : Float} {a q : ℚ} (h : SumState (exact m) (exact s))
    (hy : exact y = .finite a) (hd : exact d = .finite q)
    (hq : exact m = .finite 0 ∧ q = 1 ∨ 2 ≤ q) :
    SumState (exact (nextMean m y d)) (exact (nextSum m s y d)) ∧
    (exact (nextSum m s y d) = .infinite true ↔
      NumberSystem.isFinite s = true ∧ NumberSystem.isFinite (NumberSystem.sub y m) = false) := by
  have hdzero := isZero_of_ne hd (one_pos.trans_le (one_le_of_count hq)).ne'
  have hδ := rounds_sub y m
  have hshare := rounds_div (NumberSystem.sub y m) hdzero
  have hδ' := rounds_sub y (nextMean m y d)
  rw [hy] at hδ hδ'
  rw [hd] at hshare
  rw [isFinite_eq, isFinite_eq]
  exact h.next_of_rounds (representable_of_exact hy) (fun _ => representable_of_exact)
    (fun _ h => (representable_of_exact h).2) hq hδ hshare (rounds_add _ _) hδ' (rounds_mul _ _)
    (rounds_add _ _)

/-- A double in the half of the range around zero. -/
def HalfRange (x : Float) : Prop := ∃ q, exact x = .finite q ∧ 2 * |q| ≤ greatest

theorem HalfRange.isFinite_sub {x y : Float} (hx : HalfRange x) (hy : HalfRange y) :
    NumberSystem.isFinite (NumberSystem.sub x y) = true := by
  obtain ⟨p, hp, hple⟩ := hx
  obtain ⟨q, hq, hqle⟩ := hy
  have hsub := rounds_sub x y
  rw [hp, hq] at hsub
  have hle : |p + -q| ≤ greatest := by
    have := abs_add_le p (-q)
    rw [abs_neg] at this
    linarith
  obtain ⟨r, hr, -⟩ := hsub.exists_finite representable_greatest greatest_lt_beyond hle
  exact (isFinite_iff _).2 ⟨r, hr⟩

/-- **The mean stays in the half of the range** with the values. -/
theorem HalfRange.nextMean {m y d : Float} {q : ℚ} (hm : HalfRange m) (hy : HalfRange y)
    (hd : exact d = .finite q) (hq : exact m = .finite 0 ∧ q = 1 ∨ 2 ≤ q) :
    HalfRange (nextMean m y d) := by
  obtain ⟨δ, hδ⟩ := (isFinite_iff _).1 (hy.isFinite_sub hm)
  obtain ⟨p, hp, hple⟩ := hm
  obtain ⟨a, ha, hale⟩ := hy
  have hq' : p = 0 ∧ q = 1 ∨ 2 ≤ q :=
    hq.imp_left fun h => ⟨Exact.finite.inj (hp.symm.trans h.1), h.2⟩
  have hdzero := isZero_of_ne hd (one_pos.trans_le (one_le_of_count hq)).ne'
  obtain ⟨hprep, hpmax⟩ := representable_of_exact hp
  obtain ⟨harep, hamax⟩ := representable_of_exact ha
  have hsub := rounds_sub y m
  have hshare := rounds_div (NumberSystem.sub y m) hdzero
  have hmean := rounds_add m (NumberSystem.div (NumberSystem.sub y m) d)
  rw [ha, hp, hδ] at hsub
  rw [hδ, hd] at hshare
  rw [hp] at hmean
  cases hsub with
  | finite hround hlt =>
    rw [← sub_eq_add_neg] at hround
    obtain ⟨μ, hμ, hbetween⟩ := mean_between harep hamax hprep hpmax hq' hround
      (representable_of_exact hδ).2 hshare hmean
    refine ⟨μ, hμ, ?_⟩
    rcases hbetween with ⟨hlow, hhigh⟩ | ⟨hlow, hhigh⟩
    · have := abs_le_max_abs_abs hlow hhigh
      rcases max_choice |p| |a| with h | h <;> rw [h] at this <;> linarith
    · have := abs_le_max_abs_abs hlow hhigh
      rcases max_choice |a| |p| with h | h <;> rw [h] at this <;> linarith

theorem SumState.atLeastZero {m s : Exact ℚ} (h : SumState m s) (hs : s ≠ .infinite true) :
    AtLeastZero s ∨ s = .nan := by
  cases h with
  | regular h => exact .inl h
  | negative => exact (hs rfl).elim
  | lost => exact .inr rfl

end Double
end PassiveAggressive

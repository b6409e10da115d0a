import PassiveAggressive.Proofs.Double.Spread
import PassiveAggressive.Proofs.Scalar.Real

/-!
# The tracker over doubles

The tracker of a session holds scalars, which are doubles from the beginning, and the
targets it is given are doubles.  So it computes what `Double.nextMean` and
`Double.nextSum` say, and `Double.SumState` lists what that can come to (`Tracked`).

Two things stop it (`Stops`): the count has no double any more, or the variance is
negative.  The second is said of the value that is taken in, and not of the variance:
the value is too far from the mean.  `Tracked.observe` is the step that every statement
about streams of targets goes through.
-/

namespace PassiveAggressive

open Scalar

namespace Spread

open Double

/-- What stops the tracker at a finite value: it cannot be counted in doubles, or it is so far from
the mean that their difference is no double, the sum being one still. -/
def Stops (count : Nat) (mean sum value : Float) (f : Fault) : Prop :=
  (NumberSystem.ofInt? ((count + 1 : ℕ) : ℤ) : Option Float) = none ∧ f = .tooLarge ∨
  (NumberSystem.ofInt? ((count + 1 : ℕ) : ℤ) : Option Float).isSome = true ∧
    NumberSystem.isFinite sum = true ∧
    NumberSystem.isFinite (NumberSystem.sub value mean) = false ∧ f = .negativeRoot

/-- What a tracker can have come to over finite doubles. -/
structure Tracked (count : Nat) (mean sum : Float) : Prop where
  state : SumState (exact mean) (exact sum)
  start : count = 0 → exact mean = .finite 0

theorem tracked_start : Tracked 0 NumberSystem.zero NumberSystem.zero := by
  refine ⟨?_, fun _ => exact_systemZero⟩
  rw [exact_systemZero]
  exact .regular le_rfl

theorem observe_of_tooLarge {n : Nat} (m s y : Float)
    (hn : (NumberSystem.ofInt? ((n + 1 : ℕ) : ℤ) : Option Float) = none) :
    (⟨n, .real m, .real s⟩ : Spread (Scalar Float)).observe (.real y) =
      (⟨n + 1, .real m, .real s⟩, .error .tooLarge) := by
  have hdiv : Arithmetic.div (Scalar.real (NumberSystem.sub y m))
      (Arithmetic.ofInt ((n + 1 : ℕ) : ℤ)) = .error .tooLarge := by
    refine (div_int _ _).trans ?_
    rw [hn]
  simp only [observe, moveMean, sub_real, ok_bind, hdiv, error_bind]

theorem observe_real {n : Nat} (m s y : Float) {d : Float}
    (hn : NumberSystem.ofInt? ((n + 1 : ℕ) : ℤ) = some d) (hd : NumberSystem.isZero d = false) :
    (⟨n, .real m, .real s⟩ : Spread (Scalar Float)).observe (.real y) =
      (⟨n + 1, .real (nextMean m y d), .real (nextSum m s y d)⟩, .ok ()) := by
  have hdiv : Arithmetic.div (Scalar.real (NumberSystem.sub y m))
      (Arithmetic.ofInt ((n + 1 : ℕ) : ℤ)) =
      .ok (.real (NumberSystem.div (NumberSystem.sub y m) d)) := by
    refine (div_int _ _).trans ?_
    rw [hn]
    simp [hd]
  simp only [observe, moveMean, growSum, sub_real, ok_bind, hdiv, add_real, mul_real, nextMean,
    nextSum]

/-- The variance is negative exactly if the sum is negative infinity. -/
theorem lt_variance_iff {m s d : Float} {q : ℚ} (h : SumState (exact m) (exact s))
    (hd : exact d = .finite q) (hq : 0 < q) :
    NumberSystem.lt (NumberSystem.div s d) NumberSystem.zero = true ↔ exact s = .infinite true := by
  have hdzero := isZero_of_ne hd hq.ne'
  have hdiv := rounds_div s hdzero
  rw [hd] at hdiv
  rw [lt_eq, exact_systemZero]
  constructor
  · intro hlt
    by_contra hs
    rcases h.atLeastZero hs with hs | hs
    · have hquotient : AtLeastZero ((exact s).div (.finite q)) := by
        cases hexact : exact s with
        | nan =>
          rw [hexact] at hs
          exact hs.elim
        | infinite side =>
          rw [hexact] at hs
          obtain rfl : side = false := hs
          simp [Exact.div, AtLeastZero, hq.not_gt]
        | finite r =>
          rw [hexact] at hs
          exact div_nonneg hs hq.le
      have hvariance := hdiv.atLeastZero hquotient
      cases hexact : exact (NumberSystem.div s d) with
      | nan =>
        rw [hexact] at hvariance
        exact hvariance
      | infinite side =>
        rw [hexact] at hvariance hlt
        obtain rfl : side = false := hvariance
        cases hlt
      | finite r =>
        rw [hexact] at hvariance hlt
        exact absurd (of_decide_eq_true hlt) (not_lt.2 hvariance)
    · rw [hs] at hdiv
      rw [hdiv.eq_nan] at hlt
      cases hlt
  · intro hs
    rw [hs] at hdiv
    have hinfinite : (Exact.infinite true).div (.finite q) = (.infinite true : Exact ℚ) := by
      simp [Exact.div, hq.not_gt]
    rw [hinfinite] at hdiv
    rw [hdiv.eq_infinite]
    rfl

/-- There is no deviation exactly if there is a variance and the sum is negative infinity. -/
theorem deviation_error_iff {n : Nat} {m s d : Float} (h : SumState (exact m) (exact s))
    (hn : NumberSystem.ofInt? ((n + 1 : ℕ) : ℤ) = some d) {f : Fault} :
    (⟨n + 1, .real m, .real s⟩ : Spread (Scalar Float)).deviation = .error f ↔
      0 < n ∧ exact s = .infinite true ∧ f = .negativeRoot := by
  have hroot : ∀ x : Float, Arithmetic.sqrt (Scalar.real x) = .error f ↔
      NumberSystem.lt x NumberSystem.zero = true ∧ f = .negativeRoot := by
    intro x
    rw [sqrt_real]
    split
    · rename_i hlt
      simp [hlt, eq_comm]
    · rename_i hlt
      simp [hlt]
  unfold deviation variance
  rcases Nat.eq_zero_or_pos n with rfl | hpos
  · have hzero : NumberSystem.lt (NumberSystem.zero : Float) NumberSystem.zero = false := by
      rw [lt_eq, exact_systemZero]
      exact decide_eq_false (lt_irrefl 0)
    rw [if_pos Nat.one_lt_two, ok_bind]
    refine (hroot _).trans ?_
    simp [hzero]
  · obtain ⟨d', hd'⟩ := exists_ofInt?_of_succ hpos hn
    obtain ⟨q, hq, -, hq1⟩ := exact_of_ofInt? hpos hd'
    have hqpos : 0 < q := one_pos.trans_le hq1
    have hd'zero := isZero_of_ne hq hqpos.ne'
    have hcount : ((n + 1 : ℕ) : ℤ) - 1 = n := by push_cast; ring
    have hdiv : Arithmetic.div (Scalar.real s) (Arithmetic.ofInt (((n + 1 : ℕ) : ℤ) - 1)) =
        .ok (.real (NumberSystem.div s d')) := by
      rw [hcount]
      refine (div_int _ _).trans ?_
      rw [hd']
      simp [hd'zero]
    rw [if_neg (by simp only; omega), hdiv, ok_bind, hroot, lt_variance_iff h hq hqpos]
    simp [hpos]

/-- The double of the next count, and what the mean was if it is the first. -/
theorem Tracked.exact_count {n : Nat} {m s d : Float} (h : Tracked n m s)
    (hn : NumberSystem.ofInt? ((n + 1 : ℕ) : ℤ) = some d) :
    NumberSystem.isZero d = false ∧
      ∃ q, exact d = .finite q ∧ (exact m = .finite 0 ∧ q = 1 ∨ 2 ≤ q) := by
  obtain ⟨q, hq, hround, hq1⟩ := exact_of_ofInt? n.succ_pos hn
  refine ⟨isZero_of_ne hq (one_pos.trans_le hq1).ne', q, hq, ?_⟩
  rcases Nat.eq_zero_or_pos n with rfl | hpos
  · left
    refine ⟨h.start rfl, ?_⟩
    rw [Nat.succ_eq_add_one, zero_add, Nat.cast_one] at hround
    exact hround.eq_of_representable representable_one
  · right
    have htwo : Representable 2 := by simpa using representable_two_zpow (e := 1) (by omega)
    exact hround.ge_of_ge htwo (by exact_mod_cast Nat.succ_le_succ hpos)

/-- **A finite value.**  The tracker it leaves can be come to, and it stops the tracker only if it
is too far from the mean, or the count too large. -/
theorem Tracked.observe {n : Nat} {m s y : Float} (h : Tracked n m s)
    (hy : NumberSystem.isFinite y = true) {t : Spread (Scalar Float)} {r : Except Fault Unit}
    (ht : (⟨n, .real m, .real s⟩ : Spread (Scalar Float)).observe (.real y) = (t, r)) :
    (∃ m' s', t = ⟨n + 1, .real m', .real s'⟩ ∧ Tracked (n + 1) m' s') ∧
    ∀ f, (r >>= fun _ => t.deviation) = .error f ↔ Stops n m s y f := by
  unfold Stops
  obtain ⟨a, ha⟩ := (isFinite_iff y).1 hy
  cases hn : (NumberSystem.ofInt? ((n + 1 : ℕ) : ℤ) : Option Float) with
  | none =>
    rw [observe_of_tooLarge m s y hn] at ht
    cases ht
    refine ⟨⟨m, s, rfl, h.state, fun hzero => (n.succ_ne_zero hzero).elim⟩, fun f => ?_⟩
    rw [error_bind]
    constructor
    · intro hf
      cases hf
      exact .inl ⟨rfl, rfl⟩
    · rintro (⟨-, rfl⟩ | ⟨hno, -⟩)
      · rfl
      · cases hno
  | some d =>
    obtain ⟨hdzero, q, hq, hcount⟩ := h.exact_count hn
    rw [observe_real m s y hn hdzero] at ht
    cases ht
    obtain ⟨hstate, hnegative⟩ := h.state.next ha hq hcount
    refine ⟨⟨_, _, rfl, hstate, fun hzero => (n.succ_ne_zero hzero).elim⟩, fun f => ?_⟩
    rw [ok_bind, deviation_error_iff hstate hn, hnegative]
    have hfirst : NumberSystem.isFinite (NumberSystem.sub y m) = false → 0 < n := by
      intro hfar
      refine Nat.pos_of_ne_zero fun hzero => ?_
      have hsub := rounds_sub y m
      rw [ha, h.start hzero] at hsub
      change Rounds (.finite (a + -0)) _ at hsub
      obtain ⟨hrep, hle⟩ := representable_of_exact ha
      rw [neg_zero, add_zero] at hsub
      obtain ⟨r, hr, -⟩ := hsub.exists_finite representable_greatest greatest_lt_beyond hle
      rw [isFinite_eq, hr] at hfar
      cases hfar
    constructor
    · rintro ⟨-, ⟨hs, hfar⟩, rfl⟩
      exact .inr ⟨rfl, hs, hfar, rfl⟩
    · rintro (⟨hno, -⟩ | ⟨-, hs, hfar, rfl⟩)
      · cases hno
      · exact ⟨hfirst hfar, ⟨hs, hfar⟩, rfl⟩

/-- A value in the half of the range leaves the mean there. -/
theorem Tracked.observe_halfRange {n : Nat} {m s y : Float} (h : Tracked n m s)
    (hm : HalfRange m) (hy : HalfRange y) {t : Spread (Scalar Float)} {r : Except Fault Unit}
    (ht : (⟨n, .real m, .real s⟩ : Spread (Scalar Float)).observe (.real y) = (t, r)) :
    ∃ m' s', t = ⟨n + 1, .real m', .real s'⟩ ∧ HalfRange m' := by
  cases hn : (NumberSystem.ofInt? ((n + 1 : ℕ) : ℤ) : Option Float) with
  | none =>
    rw [observe_of_tooLarge m s y hn] at ht
    cases ht
    exact ⟨m, s, rfl, hm⟩
  | some d =>
    obtain ⟨hdzero, q, hq, hcount⟩ := h.exact_count hn
    rw [observe_real m s y hn hdzero] at ht
    cases ht
    exact ⟨_, _, rfl, hm.nextMean hy hq hcount⟩

theorem not_stops_of_halfRange {n : Nat} {m s y : Float} (hm : HalfRange m) (hy : HalfRange y)
    (hn : (NumberSystem.ofInt? ((n + 1 : ℕ) : ℤ) : Option Float).isSome = true) (f : Fault) :
    ¬ Stops n m s y f := by
  rintro (⟨hnone, -⟩ | ⟨-, -, hfar, -⟩)
  · rw [hnone] at hn
    cases hn
  · rw [hy.isFinite_sub hm] at hfar
    cases hfar

end Spread
end PassiveAggressive

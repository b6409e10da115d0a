import PassiveAggressive.Proofs.Double.Rounder

/-!
# Operations on doubles

Each operation on doubles is the operation on exact numbers, rounded: `rounds_add`,
`rounds_sub`, `rounds_mul` and `rounds_div` hold of all doubles, the infinite ones and
the non-number included, except that a quotient by zero is not spoken of.  With the
order and the absolute value of `PassiveAggressive.Proofs.Double.Value` this is
everything the learner does with doubles but the square root.
-/

namespace PassiveAggressive
namespace Double

open Float.Model Float.Model.UnpackedFloat

/-! ## Putting a result together -/

theorem rounded_self {s : Sign} {m : Nat} {e : Int} {hm : 0 < m}
    (h : Canonical (.finite s m e hm)) :
    Rounded (signed s (magnitude m e)) (signed s (magnitude m e)) := by
  obtain ⟨-, he, hlo⟩ := h
  refine Rounded.signed ⟨e, ⟨m, by simp [magnitude]⟩, ?_, he, ?_⟩ s
  · rw [sub_self, abs_zero]
    positivity
  · refine hlo.symm.imp_right fun h => ?_
    rw [abs_of_pos (magnitude_pos hm e), zpow_add₀ two_ne_zero, mul_comm, magnitude]
    refine mul_le_mul_of_nonneg_right ?_ (zpow_pos two_pos e).le
    exact_mod_cast h

theorem abs_signed (s : Sign) {q : ℚ} (hq : 0 ≤ q) : |signed s q| = q := by
  cases s
  · rw [signed, abs_neg, abs_of_nonneg hq]
  · rw [signed, abs_of_nonneg hq]

/-- Canonical parts are in range if their value is. -/
theorem exponent_le_iff {m : Nat} {e : Int} {s : Sign} {hm : 0 < m}
    (h : Canonical (.finite s m e hm)) : e ≤ 971 ↔ magnitude m e < beyond := by
  obtain ⟨hhi, -, hlo⟩ := h
  constructor
  · intro he
    calc magnitude m e < 2 ^ (53 : ℤ) * 2 ^ e :=
          mul_lt_mul_of_pos_right (by exact_mod_cast hhi) (zpow_pos two_pos e)
      _ = 2 ^ (53 + e) := (zpow_add₀ two_ne_zero _ _).symm
      _ ≤ beyond := zpow_le_zpow_right₀ one_le_two (by omega)
  · intro hlt
    by_contra he
    have hbig : beyond ≤ magnitude m e := by
      calc beyond ≤ 2 ^ (52 + e) := zpow_le_zpow_right₀ one_le_two (by omega)
        _ = 2 ^ (52 : ℤ) * 2 ^ e := zpow_add₀ two_ne_zero _ _
        _ ≤ magnitude m e := by
          refine mul_le_mul_of_nonneg_right ?_ (zpow_pos two_pos e).le
          exact_mod_cast hlo.resolve_right (by omega)
    exact absurd hlt (not_lt.2 hbig)

/-- The value of a finite double is representable, and at most the greatest double. -/
theorem representable_of_exact {x : Float} {q : ℚ} (hx : exact x = .finite q) :
    Representable q ∧ |q| ≤ greatest := by
  obtain ⟨hcanonical, hrange⟩ := canonical_parts x
  unfold exact at hx
  cases hp : parts x with
  | notANumber => rw [hp] at hx; cases hx
  | infinity s => rw [hp] at hx; cases hx
  | zero s =>
    rw [hp] at hx
    cases hx
    refine ⟨representable_zero, ?_⟩
    rw [abs_zero]
    exact sub_nonneg.2 (zpow_le_zpow_right₀ one_le_two (by omega))
  | finite s m e hm =>
    rw [hp, partsExact_finite] at hx
    cases hx
    rw [hp] at hcanonical hrange
    obtain ⟨hhi, he, -⟩ := hcanonical
    change e ≤ 971 at hrange
    have hrep : Representable (magnitude m e) :=
      ⟨m, e, by simp [magnitude], by simpa using by omega, he⟩
    refine ⟨?_, ?_⟩
    · cases s
      · exact hrep.neg
      · exact hrep
    · rw [abs_signed s (magnitude_pos hm e).le]
      rw [greatest_eq]
      have hm53 : (m : ℚ) ≤ 2 ^ 53 - 1 := by
        have : (m : ℚ) + 1 ≤ 2 ^ 53 := by exact_mod_cast hhi
        linarith
      calc magnitude m e ≤ (2 ^ 53 - 1) * 2 ^ e :=
            mul_le_mul_of_nonneg_right hm53 (zpow_pos two_pos e).le
        _ ≤ (2 ^ 53 - 1) * 2 ^ (971 : ℤ) :=
          mul_le_mul_of_nonneg_left (zpow_le_zpow_right₀ one_le_two hrange) (by norm_num)

/-- **Canonical parts whose value has been rounded** make a double that is the result, rounded. -/
theorem rounds_ofParts {u : Parts} {z r : ℚ} (hu : Canonical u) (hr : Rounded z r)
    (hvalue : partsExact u = .finite r) : Rounds (.finite z) (exact (ofParts u)) := by
  cases u with
  | notANumber => cases hvalue
  | infinity s => cases hvalue
  | zero s =>
    cases hvalue
    have hexact : exact (ofParts (.zero s)) = .finite 0 := by
      rw [exact, parts_ofParts_zero, partsExact]
    rw [hexact]
    exact .finite hr (by rw [abs_zero]; exact zpow_pos two_pos 1024)
  | finite s m e hm =>
    rw [partsExact_finite] at hvalue
    cases hvalue
    have hpos := magnitude_pos hm e
    have habs : |signed s (magnitude m e)| = magnitude m e := abs_signed s hpos.le
    by_cases he : e ≤ 971
    · have hexact : exact (ofParts (.finite s m e hm)) = .finite (signed s (magnitude m e)) := by
        rw [exact, parts_ofParts s hm hu, if_pos he, partsExact_finite]
      rw [hexact]
      exact .finite hr (by rw [habs]; exact (exponent_le_iff hu).1 he)
    · have hexact : exact (ofParts (.finite s m e hm)) = .infinite (s == .negative) := by
        rw [exact, parts_ofParts s hm hu, if_neg he, partsExact]
      have hsign : (s == .negative) = decide (z < 0) := by
        cases s with
        | negative =>
          have : z < 0 := by
            by_contra hz
            have := hr.nonneg (not_lt.1 hz)
            simp only [signed] at this
            linarith
          rw [decide_eq_true this]
          rfl
        | positive =>
          have : ¬ z < 0 := by
            intro hz
            have := hr.nonpos hz.le
            simp only [signed] at this
            linarith
          rw [decide_eq_false this]
          rfl
      rw [hexact, hsign]
      refine .overflow hr ?_
      rw [habs]
      exact not_lt.1 fun hlt => he ((exponent_le_iff hu).2 hlt)

theorem rounds_self {u : Parts} (hu : Canonical u) : Rounds (partsExact u) (exact (ofParts u)) := by
  cases u with
  | notANumber => exact .nan
  | infinity s =>
    rw [exact, parts_ofParts_infinity]
    exact .infinite _
  | zero s =>
    refine rounds_ofParts hu ?_ rfl
    exact ⟨-1074, ⟨0, by simp⟩, by simp; positivity, le_rfl, .inl rfl⟩
  | finite s m e hm =>
    rw [partsExact_finite]
    exact rounds_ofParts hu (rounded_self hu) (partsExact_finite s hm)

theorem rounds_nan : Rounds .nan (exact (ofParts .notANumber)) := .nan

theorem rounds_infinity (s : Sign) :
    Rounds (.infinite (s == .negative)) (exact (ofParts (.infinity s))) :=
  rounds_self (u := .infinity s) trivial

theorem rounds_zero (s : Sign) : Rounds (.finite 0) (exact (ofParts (.zero s))) :=
  rounds_self (u := .zero s) trivial

/-! ## Sums and differences -/

theorem apply_decreaseExponent (s : Sign) (m : Nat) {e t : Int} (ht : t ≤ e) :
    ((s.apply (decreaseExponent m e t).1 : ℤ) : ℚ) * 2 ^ t = signed s (magnitude m e) := by
  have hshift := magnitude_shiftLeft m (e - t).toNat e
  have ht' : e - ((e - t).toNat : ℤ) = t := by omega
  rw [ht', magnitude] at hshift
  cases s with
  | negative =>
    change ((-((m <<< (e - t).toNat : ℕ) : ℤ) : ℤ) : ℚ) * 2 ^ t = -magnitude m e
    rw [← hshift, Int.cast_neg, Int.cast_natCast, neg_mul]
  | positive =>
    change (((m <<< (e - t).toNat : ℕ) : ℤ) : ℚ) * 2 ^ t = magnitude m e
    rw [← hshift, Int.cast_natCast]

theorem rounds_add_parts {u v : Parts} (hu : Canonical u) (hv : Canonical v) :
    Rounds ((partsExact u).add (partsExact v))
      (exact (ofParts (UnpackedFloat.add .binary64 u v))) := by
  cases u with
  | notANumber => cases v <;> exact rounds_nan
  | infinity s =>
    cases v with
    | notANumber => exact rounds_nan
    | infinity t => cases s <;> cases t <;> first | exact rounds_nan | exact rounds_infinity _
    | zero t => exact rounds_infinity s
    | finite t m e hm => exact rounds_infinity s
  | zero s =>
    cases v with
    | notANumber => exact rounds_nan
    | infinity t => exact rounds_infinity t
    | zero t =>
      have hsum : (partsExact (.zero s)).add (partsExact (.zero t)) = .finite 0 := by
        simp [partsExact, Exact.add]
      rw [hsum, UnpackedFloat.add]
      split <;> exact rounds_zero _
    | finite t m e hm =>
      have hsum : (partsExact (.zero s)).add (partsExact (.finite t m e hm)) =
          partsExact (.finite t m e hm) := by
        rw [partsExact_finite, partsExact, Exact.add, zero_add]
      rw [hsum]
      exact rounds_self hv
  | finite s m e hm =>
    cases v with
    | notANumber => exact rounds_nan
    | infinity t => exact rounds_infinity t
    | zero t =>
      have hsum : (partsExact (.finite s m e hm)).add (partsExact (.zero t)) =
          partsExact (.finite s m e hm) := by
        rw [partsExact_finite, partsExact, Exact.add, add_zero]
      rw [hsum]
      exact rounds_self hu
    | finite t m' e' hm' =>
      obtain ⟨hcanonical, r, hr, hvalue⟩ := normalize_spec
        (s.apply (decreaseExponent m e (min e e')).1 +
          t.apply (decreaseExponent m' e' (min e e')).1)
        (min e e') .positive
      rw [Int.cast_add, add_mul, apply_decreaseExponent s m (min_le_left e e'),
        apply_decreaseExponent t m' (min_le_right e e')] at hr
      rw [partsExact_finite, partsExact_finite]
      exact rounds_ofParts hcanonical hr hvalue

/-- **A sum of doubles** is the sum, rounded. -/
theorem rounds_add (x y : Float) :
    Rounds ((exact x).add (exact y)) (exact (NumberSystem.add x y)) :=
  rounds_add_parts (canonical_parts x).1 (canonical_parts y).1

/-- **What is not finite remains so**, whatever is added to it. -/
theorem isFinite_of_isFinite_add {x y : Float}
    (h : NumberSystem.isFinite (NumberSystem.add x y) = true) :
    NumberSystem.isFinite x = true := by
  obtain ⟨q, hq⟩ := (isFinite_iff _).1 h
  have hsum := rounds_add x y
  rw [hq] at hsum
  generalize exact y = b at hsum
  cases hx : exact x with
  | finite p => exact (isFinite_iff x).2 ⟨p, hx⟩
  | nan =>
    rw [hx] at hsum
    cases hsum
  | infinite side =>
    rw [hx] at hsum
    cases b with
    | finite p => cases hsum
    | nan => cases hsum
    | infinite other => cases side <;> cases other <;> cases hsum

theorem canonical_neg {u : Parts} (hu : Canonical u) : Canonical u.neg := by
  cases u <;> exact hu

theorem partsExact_neg (u : Parts) : partsExact u.neg = (partsExact u).neg := by
  cases u with
  | notANumber => rfl
  | infinity s => cases s <;> rfl
  | zero s => simp [partsExact, UnpackedFloat.neg, Exact.neg]
  | finite s m e hm =>
    change partsExact (.finite (-s) m e hm) = _
    rw [partsExact_finite, partsExact_finite]
    cases s
    · change Exact.finite (magnitude m e) = .finite (- -magnitude m e)
      rw [neg_neg]
    · rfl

/-- A difference is a sum with the opposite. -/
theorem sub_eq_add_neg_parts (u v : Parts) :
    UnpackedFloat.sub .binary64 u v = UnpackedFloat.add .binary64 u v.neg := by
  cases u with
  | finite s m e hm =>
    cases v with
    | finite t m' e' hm' =>
      have happly : ∀ n : ℤ, (-t).apply n = -t.apply n := fun n => by
        cases t
        · exact (neg_neg n).symm
        · rfl
      simp only [UnpackedFloat.sub, UnpackedFloat.add, UnpackedFloat.neg, happly, sub_eq_add_neg]
    | _ => rfl
  | _ => cases v <;> rfl

/-- **A difference of doubles** is the difference, rounded. -/
theorem rounds_sub (x y : Float) :
    Rounds ((exact x).add (exact y).neg) (exact (NumberSystem.sub x y)) := by
  have hsub : NumberSystem.sub x y =
      ofParts (UnpackedFloat.add .binary64 (parts x) (parts y).neg) := by
    rw [← sub_eq_add_neg_parts]
    rfl
  rw [hsub, exact, exact, ← partsExact_neg]
  exact rounds_add_parts (canonical_parts x).1 (canonical_neg (canonical_parts y).1)

/-! ## Products -/

theorem signed_mul (s t : Sign) (p q : ℚ) : signed s p * signed t q = signed (s * t) (p * q) := by
  cases s <;> cases t
  · exact neg_mul_neg p q
  · exact neg_mul p q
  · exact mul_neg p q
  · rfl

theorem magnitude_mul (m m' : Nat) (e e' : Int) :
    magnitude m e * magnitude m' e' = magnitude (m * m') (e + e') := by
  rw [magnitude, magnitude, magnitude, zpow_add₀ two_ne_zero]
  push_cast
  ring

theorem signed_ne_zero (s : Sign) {q : ℚ} (hq : 0 < q) : signed s q ≠ 0 := by
  cases s
  · exact neg_ne_zero.2 hq.ne'
  · exact hq.ne'

theorem signed_lt_zero (s : Sign) {q : ℚ} (hq : 0 < q) :
    decide (signed s q < 0) = (s == .negative) := by
  cases s
  · exact decide_eq_true (neg_lt_zero.2 hq)
  · exact decide_eq_false hq.not_gt

theorem beq_mul (s t : Sign) :
    (s * t == .negative) = ((s == .negative) != (t == .negative)) := by
  cases s <;> cases t <;> rfl

/-- A product of canonical mantissas has bits enough, unless both exponents are the least. -/
theorem mul_exponent_le {s t : Sign} {m m' : Nat} {e e' : Int} {hm : 0 < m} {hm' : 0 < m'}
    (hu : Canonical (.finite s m e hm)) (hv : Canonical (.finite t m' e' hm')) :
    e + e' ≤ unitExponent (m * m') (e + e') := by
  obtain ⟨-, -, hlo⟩ := hu
  obtain ⟨-, -, hlo'⟩ := hv
  have hlarge : 2 ^ 52 ≤ m * m' → e + e' ≤ unitExponent (m * m') (e + e') := fun h => by
    have := (Nat.le_log2 (Nat.mul_pos hm hm').ne').2 h
    unfold unitExponent
    omega
  rcases hlo with h | rfl
  · exact hlarge (h.trans (Nat.le_mul_of_pos_right m hm'))
  · rcases hlo' with h | rfl
    · exact hlarge (h.trans (Nat.le_mul_of_pos_left m' hm))
    · exact le_trans (by omega) (le_max_right _ _)

theorem rounds_mul_parts {u v : Parts} (hu : Canonical u) (hv : Canonical v) :
    Rounds ((partsExact u).mul (partsExact v))
      (exact (ofParts (UnpackedFloat.mul .binary64 u v))) := by
  cases u with
  | notANumber => cases v <;> exact rounds_nan
  | infinity s =>
    cases v with
    | notANumber => exact rounds_nan
    | infinity t =>
      have := rounds_infinity (s * t)
      rwa [beq_mul] at this
    | zero t =>
      have hmul : (partsExact (.infinity s)).mul (partsExact (.zero t)) = .nan := by
        simp [partsExact, Exact.mul]
      rw [hmul]
      exact rounds_nan
    | finite t m e hm =>
      have hpos := magnitude_pos hm e
      have := rounds_infinity (s * t)
      rw [partsExact_finite, partsExact, Exact.mul, if_neg (signed_ne_zero t hpos),
        signed_lt_zero t hpos, ← beq_mul]
      exact this
  | zero s =>
    cases v with
    | notANumber => exact rounds_nan
    | infinity t =>
      have hmul : (partsExact (.zero s)).mul (partsExact (.infinity t)) = .nan := by
        simp [partsExact, Exact.mul]
      rw [hmul]
      exact rounds_nan
    | zero t =>
      rw [partsExact, partsExact, Exact.mul, zero_mul]
      exact rounds_zero (s * t)
    | finite t m e hm =>
      rw [partsExact_finite, partsExact, Exact.mul, zero_mul]
      exact rounds_zero (s * t)
  | finite s m e hm =>
    cases v with
    | notANumber => exact rounds_nan
    | infinity t =>
      have hpos := magnitude_pos hm e
      have := rounds_infinity (s * t)
      rw [partsExact_finite, partsExact, Exact.mul, if_neg (signed_ne_zero s hpos),
        signed_lt_zero s hpos, bne_comm, ← beq_mul]
      exact this
    | zero t =>
      rw [partsExact_finite, partsExact, Exact.mul, mul_zero]
      exact rounds_zero (s * t)
    | finite t m' e' hm' =>
      obtain ⟨hcanonical, r, hr, hvalue⟩ := roundWithAccuracy_spec (s * t)
        (approximates_exact (m * m')) (mul_exponent_le hu hv)
      rw [partsExact_finite, partsExact_finite, Exact.mul, signed_mul, magnitude_mul]
      exact rounds_ofParts hcanonical (hr.signed (s * t)) hvalue

/-- **A product of doubles** is the product, rounded. -/
theorem rounds_mul (x y : Float) :
    Rounds ((exact x).mul (exact y)) (exact (NumberSystem.mul x y)) :=
  rounds_mul_parts (canonical_parts x).1 (canonical_parts y).1

/-! ## Quotients -/

theorem signed_div (s t : Sign) (p q : ℚ) : signed s p / signed t q = signed (s / t) (p / q) := by
  cases s <;> cases t
  · exact neg_div_neg_eq p q
  · exact neg_div q p
  · exact div_neg p
  · rfl

theorem beq_div (s t : Sign) :
    (s / t == .negative) = ((s == .negative) != (t == .negative)) := by
  cases s <;> cases t <;> rfl

/-- What is left over by a division of mantissas is what falls off below the quotient. -/
theorem approximates_div (m : Nat) {m' : Nat} (hm' : 0 < m') :
    Approximates
      (ExtendedMantissa.ofMantissaAndAccuracy (m / m') (accuracyOfFraction (m % m') m'))
      ((m : ℚ) / m') := by
  have hpos : (0 : ℚ) < m' := Nat.cast_pos.2 hm'
  have hdiv : (m : ℚ) / m' = (m / m' : ℕ) + (m % m' : ℕ) / m' := by
    have : (m : ℚ) = m' * (m / m' : ℕ) + (m % m' : ℕ) := by
      exact_mod_cast (Nat.div_add_mod m m').symm
    rw [div_eq_iff hpos.ne', add_mul, div_mul_cancel₀ _ hpos.ne', mul_comm]
    exact this
  have hlt : ((m % m' : ℕ) : ℚ) / m' < 1 := by
    rw [div_lt_one hpos]
    exact_mod_cast Nat.mod_lt m hm'
  rw [hdiv]
  generalize m % m' = n at *
  unfold accuracyOfFraction
  by_cases hn : n = 0
  · rw [if_pos hn]
    exact ⟨_, rfl, by simp [Residue, ExtendedMantissa.ofMantissaAndAccuracy, hn]⟩
  · rw [if_neg hn]
    have hnpos : (0 : ℚ) < (n : ℚ) / m' :=
      div_pos (Nat.cast_pos.2 (Nat.pos_of_ne_zero hn)) hpos
    refine ⟨(n : ℚ) / m', ?_, ?_⟩
    · cases compare (2 * n) m' <;> rfl
    · rcases lt_trichotomy (2 * n) m' with h | h | h
      · rw [compare_lt_iff_lt.2 h]
        refine ⟨hnpos, ?_⟩
        rw [div_lt_div_iff₀ hpos two_pos, one_mul, mul_comm]
        exact_mod_cast h
      · rw [compare_eq_iff_eq.2 h]
        change (n : ℚ) / m' = 1 / 2
        rw [div_eq_div_iff hpos.ne' two_ne_zero, one_mul, mul_comm]
        exact_mod_cast h
      · rw [compare_gt_iff_gt.2 h]
        refine ⟨?_, hlt⟩
        rw [div_lt_div_iff₀ two_pos hpos, one_mul, mul_comm]
        exact_mod_cast h

/-- The exponent to which a quotient of mantissas is computed. -/
def quotientExponent (m : Nat) (e : Int) (m' : Nat) (e' : Int) : Int :=
  min (e - e') (max (m.log2 + 1 + e - (m'.log2 + 1 + e') - 53) (-1074))

/-- The quotient has bits enough. -/
theorem quotientExponent_le {m m' : Nat} (hm : 0 < m) (hm' : 0 < m') (e e' : Int) :
    quotientExponent m e m' e' ≤
      unitExponent (m <<< (e - e' - quotientExponent m e m' e').toNat / m')
        (quotientExponent m e m' e') := by
  have hdef : quotientExponent m e m' e' =
      min (e - e') (max (m.log2 + 1 + e - (m'.log2 + 1 + e') - 53) (-1074)) := rfl
  generalize quotientExponent m e m' e' = q at *
  by_cases hleast : q ≤ -1074
  · exact hleast.trans (le_max_right _ _)
  · obtain ⟨k, hk⟩ : ∃ k : Nat, (e - e' - q).toNat = k := ⟨_, rfl⟩
    rw [hk]
    have hlarge : 2 ^ 52 ≤ m <<< k / m' := by
      rw [Nat.le_div_iff_mul_le hm', Nat.shiftLeft_eq]
      calc 2 ^ 52 * m' ≤ 2 ^ 52 * 2 ^ (m'.log2 + 1) :=
            Nat.mul_le_mul_left _ Nat.lt_log2_self.le
        _ = 2 ^ (52 + (m'.log2 + 1)) := (pow_add _ _ _).symm
        _ ≤ 2 ^ (m.log2 + k) := Nat.pow_le_pow_right two_pos (by omega)
        _ = 2 ^ m.log2 * 2 ^ k := pow_add _ _ _
        _ ≤ m * 2 ^ k := Nat.mul_le_mul_right _ (Nat.log2_self_le hm.ne')
    have := (Nat.le_log2 (by omega : m <<< k / m' ≠ 0)).2 hlarge
    unfold unitExponent
    omega

theorem magnitude_div {m m' : Nat} {e e' q : Int} {k : Nat} (hk : q + k = e - e') :
    ((m <<< k : ℕ) : ℚ) / m' * 2 ^ q = magnitude m e / magnitude m' e' := by
  have he : (2 : ℚ) ^ k * 2 ^ q = 2 ^ e / 2 ^ e' := by
    rw [← zpow_natCast, ← zpow_add₀ two_ne_zero, ← zpow_sub₀ two_ne_zero, add_comm, hk]
  rw [Nat.shiftLeft_eq, magnitude, magnitude, mul_div_mul_comm, ← he]
  push_cast
  ring

theorem rounds_div_parts {u v : Parts} (hzero : (partsExact v).isZero = false) :
    Rounds ((partsExact u).div (partsExact v))
      (exact (ofParts (UnpackedFloat.div .binary64 u v))) := by
  cases v with
  | zero t => simp [partsExact, Exact.isZero] at hzero
  | notANumber => cases u <;> exact rounds_nan
  | infinity t =>
    cases u with
    | notANumber => exact rounds_nan
    | infinity s => exact rounds_nan
    | zero s => exact rounds_zero (s / t)
    | finite s m e hm =>
      rw [partsExact_finite]
      exact rounds_zero (s / t)
  | finite t m' e' hm' =>
    have hpos' := magnitude_pos hm' e'
    cases u with
    | notANumber => exact rounds_nan
    | infinity s =>
      have := rounds_infinity (s / t)
      rw [partsExact_finite, partsExact, Exact.div, signed_lt_zero t hpos', ← beq_div]
      exact this
    | zero s =>
      rw [partsExact_finite, partsExact, Exact.div, zero_div]
      exact rounds_zero (s / t)
    | finite s m e hm =>
      obtain ⟨hcanonical, r, hr, hvalue⟩ := roundWithAccuracy_spec (s / t)
        (approximates_div (m <<< (e - e' - quotientExponent m e m' e').toNat) hm')
        (quotientExponent_le hm hm' e e')
      have hle : quotientExponent m e m' e' ≤ e - e' := min_le_left _ _
      rw [magnitude_div (by omega : quotientExponent m e m' e' +
        ((e - e' - quotientExponent m e m' e').toNat : ℤ) = e - e')] at hr
      rw [partsExact_finite, partsExact_finite, Exact.div, signed_div]
      exact rounds_ofParts hcanonical (hr.signed (s / t)) hvalue

/-- **A quotient of doubles** by what is not zero is the quotient, rounded. -/
theorem rounds_div (x : Float) {y : Float} (hy : NumberSystem.isZero y = false) :
    Rounds ((exact x).div (exact y)) (exact (NumberSystem.div x y)) :=
  rounds_div_parts (by rwa [isZero_eq] at hy)

end Double
end PassiveAggressive

import PassiveAggressive.Proofs.Double.Rounding
import PassiveAggressive.Proofs.Double.Value

/-!
# The rounding of the logical model is rounding

The model of doubles rounds a mantissa by shifting it to the right, one bit at a time,
and keeps two bits of what falls off: the one just below the mantissa, and whether
anything is below that one.  `Approximates` says which numbers a mantissa with its two
bits stands for; a shift halves the number (`Approximates.shiftRight`), and rounding at
the end is off by one half at most (`Approximates.rounded`).

`roundWithAccuracy_spec` and `normalize_spec` conclude: the parts that come out are
canonical, and their value is the number that went in, `Rounded`.
-/

namespace PassiveAggressive
namespace Double

open Float.Model Float.Model.UnpackedFloat

/-! ## A mantissa and two bits -/

/-- What the two bits below a mantissa say about what fell off. -/
def Residue : Bool → Bool → ℚ → Prop
  | false, false, t => t = 0
  | false, true, t => 0 < t ∧ t < 1 / 2
  | true, false, t => t = 1 / 2
  | true, true, t => 1 / 2 < t ∧ t < 1

theorem Residue.nonneg {r s : Bool} {t : ℚ} (h : Residue r s t) : 0 ≤ t := by
  cases r <;> cases s <;> simp only [Residue] at h <;> linarith

theorem Residue.lt_one {r s : Bool} {t : ℚ} (h : Residue r s t) : t < 1 := by
  cases r <;> cases s <;> simp only [Residue] at h <;> linarith

/-- When another bit falls off, it is the upper of the two, and the others are the lower. -/
theorem Residue.shift {r s : Bool} {t : ℚ} (h : Residue r s t) (b : Bool) :
    Residue b (r || s) (((if b then 1 else 0) + t) / 2) := by
  cases b <;> cases r <;> cases s <;>
    simp only [Residue, Bool.or_true, Bool.or_false, if_true, if_false, Bool.false_eq_true]
      at h ⊢ <;>
    first
      | linarith
      | constructor <;> linarith

/-- The numbers a mantissa with its two bits stands for. -/
def Approximates (em : ExtendedMantissa) (z : ℚ) : Prop :=
  ∃ t, z = em.mantissa + t ∧ Residue em.roundBit em.stickyBit t

theorem approximates_exact (m : Nat) :
    Approximates (ExtendedMantissa.ofMantissaAndAccuracy m .exact) m :=
  ⟨0, by simp [ExtendedMantissa.ofMantissaAndAccuracy], rfl⟩

theorem Approximates.bounds {em : ExtendedMantissa} {z : ℚ} (h : Approximates em z) :
    (em.mantissa : ℚ) ≤ z ∧ z < em.mantissa + 1 := by
  obtain ⟨t, rfl, ht⟩ := h
  exact ⟨by linarith [ht.nonneg], by linarith [ht.lt_one]⟩

theorem Approximates.shiftRightOne {em : ExtendedMantissa} {z : ℚ} (h : Approximates em z) :
    Approximates em.shiftRightOne (z / 2) := by
  obtain ⟨t, rfl, ht⟩ := h
  refine ⟨_, ?_, ht.shift (em.mantissa % 2 != 0)⟩
  have hdiv : (em.mantissa : ℚ) = 2 * (em.mantissa / 2 : ℕ) + (em.mantissa % 2 : ℕ) := by
    exact_mod_cast (Nat.div_add_mod em.mantissa 2).symm
  change ((em.mantissa : ℚ) + t) / 2 = (em.mantissa / 2 : ℕ) + _
  rcases Nat.mod_two_eq_zero_or_one em.mantissa with hm | hm
  · simp only [hm, bne_self_eq_false, Bool.false_eq_true, if_false] at hdiv ⊢
    push_cast at hdiv
    linarith
  · simp only [hm, show (1 != 0) = true from rfl, if_true] at hdiv ⊢
    push_cast at hdiv
    linarith

/-- **Shifting to the right** divides by a power of two, and the mantissa is rounded down. -/
theorem Approximates.shiftRight {em : ExtendedMantissa} {z : ℚ} (h : Approximates em z) (n : Nat) :
    Approximates (em >>> n) (z / 2 ^ n) ∧ (em >>> n).mantissa = em.mantissa / 2 ^ n := by
  induction n with
  | zero =>
    have hshift : em >>> 0 = em := rfl
    rw [hshift, pow_zero, div_one, pow_zero, Nat.div_one]
    exact ⟨h, rfl⟩
  | succ n ih =>
    obtain ⟨happrox, hmantissa⟩ := ih
    have hshift : em >>> (n + 1) = (em >>> n).shiftRightOne := rfl
    rw [hshift]
    refine ⟨?_, ?_⟩
    · have := happrox.shiftRightOne
      rwa [div_div, ← pow_succ] at this
    · change (em >>> n).mantissa / 2 = _
      rw [hmantissa, Nat.div_div_eq_div_mul, ← pow_succ]

/-- **Rounding the mantissa** is off by one half at most, and goes up by one at most. -/
theorem Approximates.rounded {em : ExtendedMantissa} {z : ℚ} (h : Approximates em z) :
    |(em.roundedMantissa : ℚ) - z| ≤ 1 / 2 ∧ em.mantissa ≤ em.roundedMantissa ∧
      em.roundedMantissa ≤ em.mantissa + 1 := by
  obtain ⟨t, rfl, ht⟩ := h
  obtain ⟨m, r, s⟩ := em
  unfold ExtendedMantissa.roundedMantissa
  cases r <;> cases s <;>
    simp only [ExtendedMantissa.accuracy, Accuracy.roundToNearestEven, Residue] at ht ⊢
  · subst ht
    simp
  · refine ⟨?_, le_rfl, by omega⟩
    rw [abs_le]
    constructor <;> linarith
  · subst ht
    rcases Nat.mod_two_eq_zero_or_one m with hm | hm
    · rw [hm]
      refine ⟨?_, by omega, by omega⟩
      rw [abs_le]
      constructor <;> push_cast <;> linarith
    · rw [hm]
      refine ⟨?_, by omega, by omega⟩
      rw [abs_le]
      constructor <;> push_cast <;> linarith
  · refine ⟨?_, by omega, le_rfl⟩
    rw [abs_le]
    constructor <;> push_cast <;> linarith

/-! ## Shifting to the unit -/

/-- The exponent of the unit a number is rounded to. -/
def unitExponent (m : Nat) (e : Int) : Int := max (m.log2 + 1 + e - 53) (-1074)

/-- The unit leaves 53 bits of the mantissa, and no fewer unless it is the least one. -/
theorem unitExponent_spec {m : Nat} {e : Int} (he : e ≤ unitExponent m e) :
    m / 2 ^ (unitExponent m e - e).toNat < 2 ^ 53 ∧
      (unitExponent m e = -1074 ∨
        2 ^ 52 ≤ m / 2 ^ (unitExponent m e - e).toNat ∧
          (2 : ℚ) ^ (unitExponent m e + 52) ≤ magnitude m e) := by
  have hunit : unitExponent m e = max (m.log2 + 1 + e - 53) (-1074) := rfl
  generalize unitExponent m e = u at *
  obtain ⟨n, hn⟩ : ∃ n : Nat, (u - e).toNat = n := ⟨_, rfl⟩
  rw [hn]
  constructor
  · rw [Nat.div_lt_iff_lt_mul (Nat.two_pow_pos n), ← pow_add]
    exact lt_of_lt_of_le Nat.lt_log2_self (Nat.pow_le_pow_right two_pos (by omega))
  · by_cases hleast : u = -1074
    · exact .inl hleast
    · right
      have hm : m ≠ 0 := by
        rintro rfl
        have : Nat.log2 0 = 0 := Nat.log2_zero
        omega
      have hlog := Nat.log2_self_le hm
      have hlog52 : m.log2 = 52 + n := by omega
      constructor
      · rw [Nat.le_div_iff_mul_le (Nat.two_pow_pos n), ← pow_add, ← hlog52]
        exact hlog
      · have hsplit : u + 52 = (m.log2 : ℤ) + e := by omega
        rw [hsplit, zpow_add₀ two_ne_zero, zpow_natCast, magnitude]
        refine mul_le_mul_of_nonneg_right ?_ (zpow_pos two_pos e).le
        exact_mod_cast hlog

/-- After the mantissa has been rounded it may have one bit too many, which is shifted out. -/
theorem carry_spec {R : Nat} {u : Int} (hR : R ≤ 2 ^ 53) (hu : -1074 ≤ u) :
    ∃ M E, (shiftToTargetExponent Format.binary64 R u .exact).1.mantissa = M ∧
      (shiftToTargetExponent Format.binary64 R u .exact).2 = E ∧ magnitude M E = magnitude R u ∧
      M < 2 ^ 53 ∧ u ≤ E ∧ (E = u ∧ M = R ∨ 2 ^ 52 ≤ M) := by
  have hshift : shiftToTargetExponent Format.binary64 R u .exact =
      (ExtendedMantissa.ofMantissaAndAccuracy R .exact >>> (unitExponent R u - u).toNat,
        u + ((unitExponent R u - u).toNat : ℤ)) := rfl
  rw [hshift]
  rcases hR.lt_or_eq with hlt | rfl
  · have hlog : R.log2 ≤ 52 := by
      by_cases h0 : R = 0
      · simp [h0]
      · have := (Nat.log2_lt h0).2 hlt
        omega
    have hzero : (unitExponent R u - u).toNat = 0 := by
      unfold unitExponent
      omega
    rw [hzero]
    exact ⟨R, u, rfl, by simp, rfl, hlt, le_rfl, .inl ⟨rfl, rfl⟩⟩
  · have hone : (unitExponent (2 ^ 53) u - u).toNat = 1 := by
      unfold unitExponent
      rw [Nat.log2_two_pow]
      omega
    rw [hone]
    refine ⟨2 ^ 52, u + 1, rfl, rfl, ?_, by norm_num, by omega, .inr le_rfl⟩
    rw [magnitude, magnitude, zpow_add_one₀ two_ne_zero]
    push_cast
    ring

/-! ## Rounding a number -/

/-- A number with a sign. -/
def signed : Sign → ℚ → ℚ
  | .negative, q => -q
  | .positive, q => q

theorem partsExact_finite (s : Sign) {m : Nat} {e : Int} (hm : 0 < m) :
    partsExact (.finite s m e hm) = .finite (signed s (magnitude m e)) := by
  cases s
  · exact partsExact_negative hm
  · exact partsExact_positive hm

/-- The model shifts, rounds, and shifts out the bit that rounding may have added. -/
theorem roundWithAccuracy_eq (s : Sign) {m n R M : Nat} {e u E : Int} {acc : Accuracy}
    (hn : (unitExponent m e - e).toNat = n) (hu : e + (n : ℤ) = u)
    (hR : (ExtendedMantissa.ofMantissaAndAccuracy m acc >>> n).roundedMantissa = R)
    (hM : (shiftToTargetExponent Format.binary64 R u .exact).1.mantissa = M)
    (hE : (shiftToTargetExponent Format.binary64 R u .exact).2 = E) :
    roundWithAccuracy Format.binary64 s m e acc =
      if h : M = 0 then .zero s else .finite s M E (Nat.pos_of_ne_zero h) := by
  subst hn hu hR hM hE
  rfl

/-- **The model rounds a mantissa** to canonical parts whose value is the number it stands for,
rounded. -/
theorem roundWithAccuracy_spec (s : Sign) {m : Nat} {e : Int} {acc : Accuracy} {z : ℚ}
    (hz : Approximates (ExtendedMantissa.ofMantissaAndAccuracy m acc) z)
    (he : e ≤ unitExponent m e) :
    Canonical (roundWithAccuracy Format.binary64 s m e acc) ∧
      ∃ r, Rounded (z * 2 ^ e) r ∧
        partsExact (roundWithAccuracy Format.binary64 s m e acc) = .finite (signed s r) := by
  obtain ⟨n, hn⟩ : ∃ n : Nat, (unitExponent m e - e).toNat = n := ⟨_, rfl⟩
  obtain ⟨u, hu⟩ : ∃ u : ℤ, unitExponent m e = u := ⟨_, rfl⟩
  have hen : e + (n : ℤ) = u := by omega
  have hleast : -1074 ≤ u := hu ▸ le_max_right _ _
  obtain ⟨hhi, hfine⟩ := unitExponent_spec he
  rw [hn, hu] at hfine
  rw [hn] at hhi
  obtain ⟨happrox, hmantissa⟩ := hz.shiftRight n
  have hstart : (ExtendedMantissa.ofMantissaAndAccuracy m acc).mantissa = m := by
    cases acc with
    | exact => rfl
    | inexact o => cases o <;> rfl
  have hmz : (m : ℚ) ≤ z := by
    have := hz.bounds.1
    rwa [hstart] at this
  obtain ⟨hnear, hlow, hhigh⟩ := happrox.rounded
  rw [hmantissa, hstart] at hlow hhigh
  obtain ⟨R, hR⟩ : ∃ R, (ExtendedMantissa.ofMantissaAndAccuracy m acc >>> n).roundedMantissa = R :=
    ⟨_, rfl⟩
  rw [hR] at hnear hlow hhigh
  obtain ⟨M, E, hM, hE, hvalue, hM53, huE, hnormal⟩ := carry_spec (by omega : R ≤ 2 ^ 53) hleast
  rw [roundWithAccuracy_eq s hn hen hR hM hE]
  -- what is rounded, in units of the result
  have hsplit : z * 2 ^ e = z / 2 ^ n * 2 ^ u := by
    have hne : (2 : ℚ) ^ n ≠ 0 := pow_ne_zero n two_ne_zero
    rw [← hen, zpow_add₀ two_ne_zero, zpow_natCast, mul_left_comm, div_mul_cancel₀ z hne, mul_comm]
  have hround : Rounded (z * 2 ^ e) (magnitude R u) := by
    refine ⟨u, ⟨R, by simp [magnitude]⟩, ?_, hleast, hfine.imp_right fun h => ?_⟩
    · have hpos : (0 : ℚ) < 2 ^ u := zpow_pos two_pos u
      rw [hsplit, magnitude, ← sub_mul, abs_mul, abs_of_pos hpos]
      calc |(R : ℚ) - z / 2 ^ n| * 2 ^ u ≤ 1 / 2 * 2 ^ u :=
            mul_le_mul_of_nonneg_right hnear hpos.le
        _ = 2 ^ u / 2 := by ring
    · calc (2 : ℚ) ^ (u + 52) ≤ magnitude m e := h.2
        _ ≤ z * 2 ^ e := mul_le_mul_of_nonneg_right hmz (zpow_pos two_pos e).le
        _ ≤ |z * 2 ^ e| := le_abs_self _
  by_cases hzero : M = 0
  · rw [dif_pos hzero]
    refine ⟨trivial, magnitude R u, hround, ?_⟩
    have : magnitude R u = 0 := by rw [← hvalue, hzero, magnitude, Nat.cast_zero, zero_mul]
    rw [this]
    cases s <;> simp [partsExact, signed]
  · rw [dif_neg hzero]
    refine ⟨⟨hM53, hleast.trans huE, ?_⟩, magnitude R u, hround, ?_⟩
    · rcases hnormal with ⟨rfl, rfl⟩ | hM52
      · exact hfine.symm.imp_left fun h => h.1.trans hlow
      · exact .inl hM52
    · rw [partsExact_finite, hvalue]

theorem Rounded.signed {z r : ℚ} (h : Rounded z r) (s : Sign) :
    Rounded (Double.signed s z) (Double.signed s r) := by
  cases s
  · exact h.neg
  · exact h

theorem magnitude_shiftLeft (m k : Nat) (e : Int) :
    magnitude (m <<< k) (e - k) = magnitude m e := by
  rw [magnitude, magnitude, Nat.shiftLeft_eq, zpow_sub₀ two_ne_zero, zpow_natCast]
  have hne : (2 : ℚ) ^ k ≠ 0 := pow_ne_zero k two_ne_zero
  push_cast
  rw [mul_assoc, mul_div_cancel₀ _ hne]

/-- **The model rounds a number** with a mantissa of any length. -/
theorem round_spec (s : Sign) {m : Nat} (hm : 0 < m) (e : Int) :
    Canonical (round Format.binary64 s m e) ∧
      ∃ r, Rounded (magnitude m e) r ∧
        partsExact (round Format.binary64 s m e) = .finite (Double.signed s r) := by
  obtain ⟨k, hk⟩ : ∃ k : Nat, (e - unitExponent m e).toNat = k := ⟨_, rfl⟩
  have hround : round Format.binary64 s m e =
      roundWithAccuracy Format.binary64 s (m <<< k) (e - k) .exact := by
    subst hk
    rfl
  have hlog : (m <<< k).log2 = m.log2 + k := by
    rw [Nat.shiftLeft_eq, Nat.log2_eq_iff (Nat.mul_pos hm (Nat.two_pow_pos k)).ne']
    constructor
    · rw [pow_add]
      exact Nat.mul_le_mul_right _ (Nat.log2_self_le hm.ne')
    · rw [add_right_comm, pow_add]
      exact Nat.mul_lt_mul_of_pos_right Nat.lt_log2_self (Nat.two_pow_pos k)
  have hunit : unitExponent (m <<< k) (e - k) = unitExponent m e := by
    unfold unitExponent
    rw [hlog]
    push_cast
    congr 1
    omega
  have hspec := roundWithAccuracy_spec s (approximates_exact (m <<< k))
    (by omega : e - k ≤ unitExponent (m <<< k) (e - k))
  have hvalue := magnitude_shiftLeft m k e
  rw [magnitude] at hvalue
  rw [hround, ← hvalue]
  exact hspec

/-- **The model rounds a mantissa with a sign**, of which zero has the sign that is asked for. -/
theorem normalize_spec (m e : Int) (zeroSign : Sign) :
    Canonical (UnpackedFloat.normalize Format.binary64 m e zeroSign) ∧
      ∃ r, Rounded (m * 2 ^ e) r ∧
        partsExact (UnpackedFloat.normalize Format.binary64 m e zeroSign) = .finite r := by
  unfold UnpackedFloat.normalize
  rcases lt_trichotomy m 0 with hm | rfl | hm
  · rw [compare_lt_iff_lt.2 hm]
    obtain ⟨hcanonical, r, hr, hvalue⟩ := round_spec .negative (by omega : 0 < (-m).toNat) e
    refine ⟨hcanonical, _, ?_, hvalue⟩
    have hcast : (((-m).toNat : ℕ) : ℚ) = -m := by
      exact_mod_cast Int.toNat_of_nonneg (by omega : 0 ≤ -m)
    have := hr.neg
    rwa [magnitude, hcast, neg_mul, neg_neg] at this
  · refine ⟨trivial, 0, ?_, rfl⟩
    exact ⟨-1074, ⟨0, by simp⟩, by simp; positivity, le_rfl, .inl rfl⟩
  · rw [compare_gt_iff_gt.2 hm]
    obtain ⟨hcanonical, r, hr, hvalue⟩ := round_spec .positive (by omega : 0 < m.toNat) e
    refine ⟨hcanonical, _, ?_, hvalue⟩
    have hcast : ((m.toNat : ℕ) : ℚ) = m := by
      exact_mod_cast Int.toNat_of_nonneg hm.le
    rwa [magnitude, hcast] at hr

end Double
end PassiveAggressive

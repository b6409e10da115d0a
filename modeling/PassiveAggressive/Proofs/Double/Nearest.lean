import Mathlib.Tactic.FieldSimp
import PassiveAggressive.Proofs.Double.Operations

/-!
# Whole numbers and quotients as doubles

`Number.nearest` finds the double nearest to a quotient of whole numbers by computing its
significand in units of its last place and writing down the bits.  `rounds_nearest` says
that it is the quotient, rounded, in the sense in which the results of operations are.

For whole numbers this bounds what the learner divides its sums by: `exact_of_ofInt?`
finds the double of a positive whole number among the numbers that are at least one, and
`exists_ofInt?_of_succ` says that a number before one that has a double has one as well.
-/

namespace PassiveAggressive
namespace Double

open Float.Model.UnpackedFloat

/-! ## The significand -/

theorem twoTo_eq (k : Nat) : ((Number.twoTo k : ℕ) : ℚ) = 2 ^ k := by
  change ((2 ^ k : ℕ) : ℚ) = 2 ^ k
  push_cast
  rfl

/-- Whether a quotient reaches a power of two, without dividing. -/
theorem reached_iff {num den : Nat} (hden : 0 < den) (g : ℤ) :
    (if 0 ≤ g then den * Number.twoTo g.toNat ≤ num else den ≤ num * Number.twoTo (-g).toNat) ↔
      (2 : ℚ) ^ g ≤ num / den := by
  have hpos : (0 : ℚ) < den := Nat.cast_pos.2 hden
  rw [le_div_iff₀ hpos]
  split
  · rename_i h
    obtain ⟨k, rfl⟩ := Int.eq_ofNat_of_zero_le h
    rw [← @Nat.cast_le ℚ, Nat.cast_mul, Int.toNat_natCast, twoTo_eq, zpow_natCast, mul_comm]
  · rename_i h
    obtain ⟨k, hk⟩ := Int.eq_ofNat_of_zero_le (by omega : 0 ≤ -g)
    obtain rfl : g = -(k : ℤ) := by omega
    have hpow : (0 : ℚ) < 2 ^ k := pow_pos two_pos k
    rw [← @Nat.cast_le ℚ, Nat.cast_mul, neg_neg, Int.toNat_natCast, twoTo_eq, zpow_neg,
      zpow_natCast, inv_mul_le_iff₀ hpow, mul_comm]

/-- The exponent that is found for a quotient is that of the greatest power of two in it. -/
theorem floorLog2_spec {num den : Nat} (hnum : 0 < num) (hden : 0 < den) :
    (2 : ℚ) ^ Number.floorLog2 num den ≤ (num : ℚ) / den ∧
      (num : ℚ) / den < 2 ^ (Number.floorLog2 num den + 1) := by
  have hpos : (0 : ℚ) < den := Nat.cast_pos.2 hden
  have hnumlo : (2 : ℚ) ^ num.log2 ≤ num := by exact_mod_cast Nat.log2_self_le hnum.ne'
  have hnumhi : (num : ℚ) < 2 ^ (num.log2 + 1) := by exact_mod_cast Nat.lt_log2_self
  have hdenlo : (2 : ℚ) ^ den.log2 ≤ den := by exact_mod_cast Nat.log2_self_le hden.ne'
  have hdenhi : (den : ℚ) < 2 ^ (den.log2 + 1) := by exact_mod_cast Nat.lt_log2_self
  obtain ⟨g, hg⟩ : ∃ g : ℤ, (num.log2 : ℤ) - den.log2 = g := ⟨_, rfl⟩
  -- the quotient lies between half the guessed power and twice the guessed power
  have hlow : (2 : ℚ) ^ (g - 1) ≤ (num : ℚ) / den := by
    rw [le_div_iff₀ hpos]
    calc (2 : ℚ) ^ (g - 1) * den ≤ 2 ^ (g - 1) * 2 ^ ((den.log2 + 1 : ℕ) : ℤ) :=
          mul_le_mul_of_nonneg_left (by exact_mod_cast hdenhi.le) (zpow_pos two_pos _).le
      _ = 2 ^ (num.log2 : ℤ) := by
        rw [← zpow_add₀ two_ne_zero]
        congr 1
        push_cast
        omega
      _ ≤ num := by exact_mod_cast hnumlo
  have hhigh : (num : ℚ) / den < 2 ^ (g + 1) := by
    rw [div_lt_iff₀ hpos]
    calc (num : ℚ) < 2 ^ ((num.log2 + 1 : ℕ) : ℤ) := by exact_mod_cast hnumhi
      _ = 2 ^ (g + 1) * 2 ^ (den.log2 : ℤ) := by
        rw [← zpow_add₀ two_ne_zero]
        congr 1
        push_cast
        omega
      _ ≤ 2 ^ (g + 1) * den :=
        mul_le_mul_of_nonneg_left (by exact_mod_cast hdenlo) (zpow_pos two_pos _).le
  have hdef : Number.floorLog2 num den = if (2 : ℚ) ^ g ≤ num / den then g else g - 1 := by
    unfold Number.floorLog2
    simp only [hg]
    exact if_congr (reached_iff hden g) rfl rfl
  rw [hdef]
  split
  · rename_i h
    exact ⟨h, hhigh⟩
  · rename_i h
    rw [sub_add_cancel]
    exact ⟨hlow, (not_le.1 h)⟩

/-- The significand is off by half a unit at most. -/
theorem inUnits_near (num : Nat) {den : Nat} (hden : 0 < den) (e : ℤ) :
    |(Number.inUnits num den e : ℚ) - num / den / 2 ^ e| ≤ 1 / 2 := by
  have hround : ∀ (n : Nat) {d : Nat}, 0 < d →
      |(Number.roundHalfEven n d : ℚ) - n / d| ≤ 1 / 2 := fun n d hd => by
    have hpos : (0 : ℚ) < d := Nat.cast_pos.2 hd
    obtain ⟨hlow, hhigh⟩ := Number.roundHalfEven_near n d hd
    have hlow' : 2 * (n : ℚ) ≤ 2 * d * Number.roundHalfEven n d + d := by exact_mod_cast hlow
    have hhigh' : 2 * (d : ℚ) * Number.roundHalfEven n d ≤ 2 * n + d := by exact_mod_cast hhigh
    have hdiv : (n : ℚ) / d * d = n := div_mul_cancel₀ _ hpos.ne'
    rw [abs_le]
    constructor
    · refine le_of_mul_le_mul_right ?_ hpos
      linarith
    · refine le_of_mul_le_mul_right ?_ hpos
      linarith
  unfold Number.inUnits
  split
  · rename_i h
    obtain ⟨k, rfl⟩ := Int.eq_ofNat_of_zero_le h
    have := hround num (Nat.mul_pos hden (Number.twoTo_pos k))
    rwa [Nat.cast_mul, twoTo_eq, ← div_div] at this
  · rename_i h
    obtain ⟨k, hk⟩ := Int.eq_ofNat_of_zero_le (by omega : 0 ≤ -e)
    obtain rfl : e = -(k : ℤ) := by omega
    have := hround (num * Number.twoTo k) hden
    rw [Nat.cast_mul, twoTo_eq] at this
    rw [neg_neg, Int.toNat_natCast, zpow_neg, zpow_natCast, div_inv_eq_mul, div_mul_eq_mul_div]
    exact this

/-! ## The nearest double -/

/-- A double whose parts have the value of a rounded number is the number, rounded. -/
theorem rounds_of_parts {x : Float} {s : Sign} {m : Nat} {e : Int} {hm : 0 < m} {z : ℚ}
    (hx : parts x = .finite s m e hm) (hz : Rounded z (magnitude m e)) :
    Rounds (.finite (signed s z)) (exact x) := by
  obtain ⟨hcanonical, hrange⟩ := canonical_parts x
  rw [hx] at hcanonical hrange
  rw [exact, hx, partsExact_finite]
  refine .finite (hz.signed s) ?_
  rw [abs_signed s (magnitude_pos hm e).le]
  exact (exponent_le_iff hcanonical).1 hrange

/-- The significand has 53 bits, or the next power of two, and with its exponent it is the
quotient, rounded. -/
theorem significand_spec {num den : Nat} (hnum : 0 < num) (hden : 0 < den) {e : ℤ} {R : Nat}
    (he : max (Number.floorLog2 num den - 52) (-1074) = e) (hR : Number.inUnits num den e = R) :
    R ≤ 2 ^ 53 ∧ (e = -1074 ∨ 2 ^ 52 ≤ R) ∧ Rounded ((num : ℚ) / den) (magnitude R e) := by
  obtain ⟨hlow, hhigh⟩ := floorLog2_spec hnum hden
  have hnear := inUnits_near num hden e
  rw [hR] at hnear
  generalize (num : ℚ) / den = q at *
  have hpos : (0 : ℚ) < 2 ^ e := zpow_pos two_pos e
  obtain ⟨hnear₁, hnear₂⟩ := abs_le.1 hnear
  refine ⟨?_, ?_, e, ⟨R, by simp [magnitude]⟩, ?_, by omega, ?_⟩
  · have hlt : q / 2 ^ e < 2 ^ (53 : ℤ) := by
      rw [div_lt_iff₀ hpos, ← zpow_add₀ two_ne_zero]
      exact hhigh.trans_le (zpow_le_zpow_right₀ one_le_two (by omega))
    have hcast : (R : ℚ) < 2 ^ 53 + 1 := by
      have : (2 : ℚ) ^ (53 : ℤ) = 2 ^ 53 := by norm_cast
      linarith
    have : R < 2 ^ 53 + 1 := by exact_mod_cast hcast
    omega
  · by_cases hleast : e = -1074
    · exact .inl hleast
    · right
      have hge : (2 : ℚ) ^ (52 : ℤ) ≤ q / 2 ^ e := by
        rw [le_div_iff₀ hpos, ← zpow_add₀ two_ne_zero]
        exact (zpow_le_zpow_right₀ one_le_two (by omega)).trans hlow
      have hcast : (2 : ℚ) ^ 52 < R + 1 := by
        have : (2 : ℚ) ^ (52 : ℤ) = 2 ^ 52 := by norm_cast
        linarith
      have : 2 ^ 52 < R + 1 := by exact_mod_cast hcast
      omega
  · have hq : q = q / 2 ^ e * 2 ^ e := (div_mul_cancel₀ q hpos.ne').symm
    rw [magnitude]
    nth_rewrite 1 [hq]
    rw [← sub_mul, abs_mul, abs_of_pos hpos]
    calc |(R : ℚ) - q / 2 ^ e| * 2 ^ e ≤ 1 / 2 * 2 ^ e := mul_le_mul_of_nonneg_right hnear hpos.le
      _ = 2 ^ e / 2 := by ring
  · by_cases hleast : e = -1074
    · exact .inl hleast
    · right
      have : Number.floorLog2 num den = e + 52 := by omega
      rw [← this]
      exact hlow.trans (le_abs_self q)

/-- **The double nearest to a quotient** is the quotient, rounded. -/
theorem rounds_nearest (negative : Bool) {num den : Nat} (hnum : 0 < num) (hden : 0 < den) :
    Rounds (.finite (signed (signOf negative) (num / den)))
      (exact (Number.nearest negative num den)) := by
  obtain ⟨e, he⟩ : ∃ e : ℤ, max (Number.floorLog2 num den - 52) (-1074) = e := ⟨_, rfl⟩
  obtain ⟨R, hR⟩ : ∃ R : Nat, Number.inUnits num den e = R := ⟨_, rfl⟩
  obtain ⟨hR53, hR52, hround⟩ := significand_spec hnum hden he hR
  have hleast : -1074 ≤ e := he ▸ le_max_right _ _
  have hdef : Number.nearest negative num den =
      if R < 2 ^ 52 then Float.ofBits (UInt64.ofNat (Number.signBit negative + R))
      else if 2047 * 2 ^ 52 ≤ (e + 1074).toNat * 2 ^ 52 + R then Number.infinity negative
      else Float.ofBits
        (UInt64.ofNat (Number.signBit negative + ((e + 1074).toNat * 2 ^ 52 + R))) := by
    unfold Number.nearest
    rw [if_neg (by simp; omega)]
    subst hR he
    rfl
  rw [hdef]
  have hq : (0 : ℚ) < (num : ℚ) / den := div_pos (Nat.cast_pos.2 hnum) (Nat.cast_pos.2 hden)
  by_cases hsub : R < 2 ^ 52
  · rw [if_pos hsub]
    obtain rfl : e = -1074 := hR52.resolve_right (by omega)
    rcases Nat.eq_zero_or_pos R with rfl | hpos
    · change Rounds _ (exact (Number.zero negative))
      have hzero : magnitude 0 (-1074) = 0 := by rw [magnitude, Nat.cast_zero, zero_mul]
      rw [hzero] at hround
      have hsigned : signed (signOf negative) 0 = 0 := by
        cases negative
        · rfl
        · exact neg_zero
      have := hround.signed (signOf negative)
      rw [hsigned] at this
      rw [exact_zero]
      exact .finite this (by rw [abs_zero]; exact zpow_pos two_pos 1024)
    · exact rounds_of_parts (parts_ofBits_subnormal negative hpos hsub) hround
  · rw [if_neg hsub]
    by_cases hover : 2047 * 2 ^ 52 ≤ (e + 1074).toNat * 2 ^ 52 + R
    · rw [if_pos hover, exact_infinity]
      have hsign : negative = decide (signed (signOf negative) ((num : ℚ) / den) < 0) := by
        rw [signed_lt_zero _ hq]
        cases negative <;> rfl
      nth_rewrite 2 [hsign]
      refine .overflow (hround.signed _) ?_
      rw [abs_signed _ (magnitude_pos (by omega : 0 < R) e).le]
      rcases hR53.lt_or_eq with hlt | rfl
      · calc beyond ≤ 2 ^ ((52 : ℤ) + e) := zpow_le_zpow_right₀ one_le_two (by omega)
          _ = 2 ^ (52 : ℤ) * 2 ^ e := zpow_add₀ two_ne_zero _ _
          _ ≤ magnitude R e := by
            refine mul_le_mul_of_nonneg_right ?_ (zpow_pos two_pos e).le
            exact_mod_cast not_lt.1 hsub
      · calc beyond ≤ 2 ^ ((53 : ℤ) + e) := zpow_le_zpow_right₀ one_le_two (by omega)
          _ = 2 ^ (53 : ℤ) * 2 ^ e := zpow_add₀ two_ne_zero _ _
          _ = magnitude (2 ^ 53) e := by
            rw [magnitude, Nat.cast_pow, Nat.cast_ofNat, ← zpow_natCast, Nat.cast_ofNat]
    · rw [if_neg hover]
      rcases hR53.lt_or_eq with hlt | rfl
      · exact rounds_of_parts
          (parts_ofBits_normal negative (by omega) (by omega) hlt hleast (by omega)) hround
      · -- the significand has carried into the exponent
        have hbits : (e + 1074).toNat * 2 ^ 52 + 2 ^ 53 =
            (e + 1 + 1074).toNat * 2 ^ 52 + 2 ^ 52 := by omega
        have hcarry : magnitude (2 ^ 53) e = magnitude (2 ^ 52) (e + 1) := by
          rw [magnitude, magnitude, zpow_add_one₀ two_ne_zero]
          push_cast
          ring
        rw [hcarry] at hround
        rw [hbits]
        exact rounds_of_parts
          (parts_ofBits_normal negative (by omega) le_rfl (by omega) (by omega) (by omega)) hround

/-! ## Whole numbers -/

theorem rounds_ofInt {n : Nat} (hn : 0 < n) :
    Rounds (.finite (n : ℚ)) (exact (Number.ofInt n)) := by
  have h := rounds_nearest false hn one_pos
  rwa [Nat.cast_one, div_one] at h

/-- The double of a positive whole number, if it has one, is the number, rounded. -/
theorem exact_of_ofInt? {n : Nat} (hn : 0 < n) {d : Float}
    (hd : NumberSystem.ofInt? (n : ℤ) = some d) :
    ∃ q : ℚ, exact d = .finite q ∧ Rounded n q ∧ 1 ≤ q := by
  have hround := rounds_ofInt hn
  have hdef : (NumberSystem.ofInt? (n : ℤ) : Option Float) = Number.finite? (Number.ofInt n) := rfl
  rw [hdef, Number.finite?] at hd
  split at hd
  · rename_i hfinite
    cases hd
    have hsome : (exact (Number.ofInt n)).finite?.isSome = true := by
      rw [← isFinite_eq]
      exact hfinite
    generalize exact (Number.ofInt n) = y at *
    cases hround with
    | finite h hr =>
      refine ⟨_, rfl, h, h.ge_of_ge representable_one ?_⟩
      exact_mod_cast hn
    | overflow h hr => cases hsome
  · cases hd

/-- The number before one that has a double has one as well. -/
theorem exists_ofInt?_of_succ {n : Nat} (hn : 0 < n) {d : Float}
    (hd : NumberSystem.ofInt? ((n + 1 : ℕ) : ℤ) = some d) :
    ∃ d' : Float, NumberSystem.ofInt? (n : ℤ) = some d' := by
  obtain ⟨q, hq, hround, -⟩ := exact_of_ofInt? n.succ_pos hd
  obtain ⟨hrep, hle⟩ := representable_of_exact hq
  have hlt : ((n + 1 : ℕ) : ℚ) < beyond := by
    by_contra hge
    have := hround.ge_of_ge (representable_two_zpow (by omega)) (not_lt.1 hge)
    exact absurd (this.trans ((le_abs_self q).trans hle)) (not_le.2 greatest_lt_beyond)
  have habs : |((n + 1 : ℕ) : ℚ)| = ((n + 1 : ℕ) : ℚ) := abs_of_nonneg (Nat.cast_nonneg _)
  have hnear := (abs_le.1 (hround.abs_sub_le (by rwa [habs]))).1
  have hunit := greatest_add_halfUnit
  have hpos := halfUnit_pos
  have hn' : (n : ℚ) < greatest + halfUnit := by
    have := (le_abs_self q).trans hle
    push_cast at hnear
    linarith
  have hfinite : NumberSystem.isFinite (Number.ofInt n) = true := by
    have hround' := rounds_ofInt hn
    rw [isFinite_eq]
    generalize exact (Number.ofInt n) = y at *
    cases hround' with
    | finite h hr => rfl
    | @overflow _ r h hr =>
      exfalso
      have hnn : |(n : ℚ)| = n := abs_of_nonneg (Nat.cast_nonneg n)
      have hr0 : |r| = r := abs_of_nonneg (h.nonneg (Nat.cast_nonneg n))
      have hnear' := (abs_le.1 (h.abs_sub_le (by rw [hnn]; linarith))).2
      rw [hr0] at hr
      linarith
  exact ⟨Number.ofInt n, if_pos hfinite⟩

/-- The doubles of the two signs are the signs. -/
theorem exact_of_sign {above : Bool} {σ : Float}
    (h : NumberSystem.ofInt? (if above then 1 else -1) = some σ) :
    ∃ u : ℚ, exact σ = .finite u ∧ |u| = 1 := by
  cases above with
  | true =>
    have h1 : NumberSystem.ofInt? ((1 : ℕ) : ℤ) = some σ := h
    obtain ⟨q, hq, hround, -⟩ := exact_of_ofInt? one_pos h1
    rw [Nat.cast_one] at hround
    obtain rfl := hround.eq_of_representable representable_one
    exact ⟨1, hq, abs_one⟩
  | false =>
    have hσ : Number.finite? (Number.nearest true 1 1) = some σ := h
    have hround := rounds_nearest true one_pos one_pos
    rw [Nat.cast_one, div_one] at hround
    change Rounds (.finite (-1)) _ at hround
    obtain ⟨q, hq, hq1⟩ := hround.exists_finite representable_greatest greatest_lt_beyond (by
      rw [abs_neg, abs_one]
      exact one_le_greatest)
    obtain rfl := hq1.eq_of_representable representable_one.neg
    unfold Number.finite? at hσ
    split at hσ
    · cases hσ
      exact ⟨-1, hq, by rw [abs_neg, abs_one]⟩
    · cases hσ

end Double
end PassiveAggressive

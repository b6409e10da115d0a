import Mathlib
import PassiveAggressive.Number.Double

/-!
# Doubles in parts

The operations on doubles have a logical model: a double is taken apart into a sign, a
mantissa and an exponent, or into what else it is, the operation is performed on the
parts, and the result is put together again.  What is put together again is only what
it was if the parts are `Canonical`, that is, if they are parts a double is taken apart
into: a mantissa of 53 bits, or fewer bits and the least exponent.

* `canonical_parts`: every double comes apart canonically, with an exponent of at most
  971.
* `parts_ofParts`: canonical parts are what is found again, except that those with a
  greater exponent are infinite.
-/

namespace PassiveAggressive
namespace Double

open Float.Model Float.Model.UnpackedFloat

/-- A double in parts. -/
abbrev Parts := Float.Model.UnpackedFloat

/-- The parts of a double. -/
def parts (x : Float) : Parts := x.toModel.unpack

/-- The double put together from its parts. -/
def ofParts (u : Parts) : Float := .ofModel (.pack u)

/-- The parts are those of a number with 53 significant bits, or of a smaller one with the least
exponent. -/
def Canonical : Parts → Prop
  | .finite _ m e _ => m < 2 ^ 53 ∧ -1074 ≤ e ∧ (2 ^ 52 ≤ m ∨ e = -1074)
  | _ => True

/-- The parts are not beyond the greatest double. -/
def InRange : Parts → Prop
  | .finite _ _ e _ => e ≤ 971
  | _ => True

@[simp] theorem parts_ofParts_zero (s : Sign) : parts (ofParts (.zero s)) = .zero s := by
  cases s <;> rfl

@[simp] theorem parts_ofParts_infinity (s : Sign) :
    parts (ofParts (.infinity s)) = .infinity s := by
  cases s <;> rfl

@[simp] theorem parts_ofParts_notANumber : parts (ofParts .notANumber) = .notANumber := rfl

/-! ## The three fields -/

theorem sign_packComponents (s : Sign) (e : BitVec 11) (m : BitVec 52) :
    Sign.ofBitVec (unpackSign (packComponents Format.binary64 s e m)) = s := by
  rw [unpackSign_packComponents, Sign.ofBitVec_toBitVec]

/-- The bit that is not stored is the greatest of 53. -/
theorem toNat_one_append (m : BitVec 52) : (1#1 ++ m).toNat = 2 ^ 52 + m.toNat := by
  rw [BitVec.toNat_append, ← Nat.shiftLeft_add_eq_or_of_lt m.isLt]
  rfl

theorem exponentBias_eq : Format.binary64.exponentBias = 1023 := rfl

/-- All bits come apart canonically. -/
theorem canonical_unpack (b : BitVec 64) :
    Canonical (UnpackedFloat.unpack Format.binary64 b) ∧
      InRange (UnpackedFloat.unpack Format.binary64 b) := by
  let m : BitVec 52 := @unpackMantissa Format.binary64 b
  let e : BitVec 11 := @unpackExponent Format.binary64 b
  have hm : m.toNat < 2 ^ 52 := m.isLt
  have he : e.toNat < 2 ^ 11 := e.isLt
  unfold UnpackedFloat.unpack
  simp only [exponentBias_eq]
  split
  · split <;> exact ⟨trivial, trivial⟩
  · rename_i hinf
    have hinf' : e.toNat ≠ 2047 := fun h => hinf (BitVec.eq_of_toNat_eq h)
    split
    · rename_i hsub
      have hsub' : e.toNat = 0 := congrArg BitVec.toNat hsub
      split
      · exact ⟨trivial, trivial⟩
      · change (m.toNat < 2 ^ 53 ∧
          (-1074 : Int) ≤ (e.toNat - ((1023 : Nat) + (52 : Nat)) + 1 : Int) ∧
          (2 ^ 52 ≤ m.toNat ∨ (e.toNat - ((1023 : Nat) + (52 : Nat)) + 1 : Int) = -1074)) ∧
          (e.toNat - ((1023 : Nat) + (52 : Nat)) + 1 : Int) ≤ 971
        omega
    · rename_i hsub
      have hsub' : e.toNat ≠ 0 := fun h => hsub (BitVec.eq_of_toNat_eq h)
      have hnormal := toNat_one_append m
      change ((1#1 ++ m).toNat < 2 ^ 53 ∧
        (-1074 : Int) ≤ (e.toNat - ((1023 : Nat) + (52 : Nat)) : Int) ∧
        (2 ^ 52 ≤ (1#1 ++ m).toNat ∨ (e.toNat - ((1023 : Nat) + (52 : Nat)) : Int) = -1074)) ∧
        (e.toNat - ((1023 : Nat) + (52 : Nat)) : Int) ≤ 971
      omega

theorem canonical_parts (x : Float) : Canonical (parts x) ∧ InRange (parts x) :=
  canonical_unpack x.toModel.toBits.toBitVec

/-- With an exponent in the second field the mantissa is full. -/
theorem unpack_normal {b : BitVec 64} {s : Sign} {m : Nat} {e : Int}
    (hsign : Sign.ofBitVec (@unpackSign Format.binary64 b) = s)
    (hexp : (@unpackExponent Format.binary64 b).toNat = (e + 1075).toNat)
    (hmant : 2 ^ 52 + (@unpackMantissa Format.binary64 b).toNat = m)
    (he : -1074 ≤ e) (he' : e ≤ 971) (hm : 0 < m) :
    UnpackedFloat.unpack Format.binary64 b = .finite s m e hm := by
  have hne : @unpackExponent Format.binary64 b ≠ -1#11 := fun h => by
    rw [h] at hexp
    change 2047 = _ at hexp
    omega
  have hne' : @unpackExponent Format.binary64 b ≠ 0#11 := fun h => by
    rw [h] at hexp
    change 0 = _ at hexp
    omega
  have hone : (1#1 ++ @unpackMantissa Format.binary64 b).toNat = m := by
    rw [← hmant]
    exact toNat_one_append _
  unfold UnpackedFloat.unpack
  simp only
  rw [if_neg hne, if_neg hne']
  simp only [hone, hexp, hsign, exponentBias_eq]
  congr 1
  omega

/-- Without an exponent the mantissa is what is stored. -/
theorem unpack_subnormal {b : BitVec 64} {s : Sign} {m : Nat}
    (hsign : Sign.ofBitVec (@unpackSign Format.binary64 b) = s)
    (hexp : (@unpackExponent Format.binary64 b).toNat = 0)
    (hmant : (@unpackMantissa Format.binary64 b).toNat = m) (hm : 0 < m) :
    UnpackedFloat.unpack Format.binary64 b = .finite s m (-1074) hm := by
  have hzero : @unpackExponent Format.binary64 b = 0#11 := BitVec.eq_of_toNat_eq hexp
  have hne : @unpackMantissa Format.binary64 b ≠ 0#52 := fun h => by
    rw [h] at hmant
    change 0 = m at hmant
    omega
  unfold UnpackedFloat.unpack
  simp only
  rw [hzero, if_neg (by decide), if_pos rfl, dif_neg hne]
  simp only [hmant, hsign]
  rfl

/-! ## Putting together and taking apart -/

/-- A mantissa of 53 bits loses its greatest bit in the field, and finds it again. -/
theorem parts_ofParts_normal (s : Sign) {m : Nat} {e : Int} (hm : 0 < m) (hlo : 2 ^ 52 ≤ m)
    (hhi : m < 2 ^ 53) (he : -1074 ≤ e) :
    parts (ofParts (.finite s m e hm)) =
      if e ≤ 971 then .finite s m e hm else .infinity s := by
  have hlog : m.log2 = 52 := (Nat.log2_eq_iff hm.ne').2 ⟨hlo, hhi⟩
  have hbias :
      (e + Format.binary64.exponentBias + Format.binary64.mantissaBitsWithoutImplicit).toNat =
        (e + 1075).toNat := by
    rw [exponentBias_eq]
    change (e + (1023 : Nat) + (52 : Nat)).toNat = _
    omega
  have hpack : UnpackedFloat.pack Format.binary64 (.finite s m e hm) =
      if 2 ^ 11 ≤ (e + 1075).toNat + 1 then packedInfinity Format.binary64 s
      else packComponents Format.binary64 s (BitVec.ofNat 11 (e + 1075).toNat)
        (BitVec.ofNat 52 m) := by
    rw [UnpackedFloat.pack]
    simp only [hlog, hbias]
    rfl
  change UnpackedFloat.unpack Format.binary64 (UnpackedFloat.pack Format.binary64 _) = _
  rw [hpack]
  by_cases hrange : e ≤ 971
  · rw [if_neg (by omega), if_pos hrange]
    refine unpack_normal (sign_packComponents _ _ _) ?_ ?_ he hrange hm
    · rw [unpackExponent_packComponents]
      change (e + 1075).toNat % 2 ^ 11 = _
      omega
    · rw [unpackMantissa_packComponents]
      change 2 ^ 52 + m % 2 ^ 52 = m
      omega
  · rw [if_pos (by omega), if_neg hrange]
    cases s <;> rfl

/-- A shorter mantissa with the least exponent is stored as it is. -/
theorem parts_ofParts_subnormal (s : Sign) {m : Nat} (hm : 0 < m) (hhi : m < 2 ^ 52) :
    parts (ofParts (.finite s m (-1074) hm)) = .finite s m (-1074) hm := by
  have hlog : m.log2 < 52 := (Nat.log2_lt hm.ne').2 hhi
  have hpack : UnpackedFloat.pack Format.binary64 (.finite s m (-1074) hm) =
      packComponents Format.binary64 s 0#11 (BitVec.ofNat 52 m) := by
    rw [UnpackedFloat.pack]
    have hlog' : ¬ m.log2 + 1 = Format.binary64.mantissaBits := by
      change ¬ m.log2 + 1 = 53
      omega
    simp only [if_neg hlog']
    rfl
  change UnpackedFloat.unpack Format.binary64 (UnpackedFloat.pack Format.binary64 _) = _
  rw [hpack]
  refine unpack_subnormal (sign_packComponents _ _ _) ?_ ?_ hm
  · rw [unpackExponent_packComponents]
    rfl
  · rw [unpackMantissa_packComponents]
    exact Nat.mod_eq_of_lt hhi

/-- **Canonical parts are found again**, or are infinite where they are out of range. -/
theorem parts_ofParts (s : Sign) {m : Nat} {e : Int} (hm : 0 < m)
    (h : Canonical (.finite s m e hm)) :
    parts (ofParts (.finite s m e hm)) =
      if e ≤ 971 then .finite s m e hm else .infinity s := by
  obtain ⟨hhi, he, hlo⟩ := h
  by_cases hnormal : 2 ^ 52 ≤ m
  · exact parts_ofParts_normal s hm hnormal hhi he
  · obtain rfl : e = -1074 := hlo.resolve_left hnormal
    rw [parts_ofParts_subnormal s hm (not_le.1 hnormal), if_pos (by omega)]

theorem parts_ofBits (b : UInt64) :
    parts (Float.ofBits b) = UnpackedFloat.unpack Format.binary64 b.toBitVec := by
  have hcanonical := canonical_unpack b.toBitVec
  change parts (ofParts (UnpackedFloat.unpack Format.binary64 b.toBitVec)) = _
  generalize UnpackedFloat.unpack Format.binary64 b.toBitVec = u at *
  cases u with
  | notANumber => rfl
  | infinity s => exact parts_ofParts_infinity s
  | zero s => exact parts_ofParts_zero s
  | finite s m e hm =>
    obtain ⟨hc, hr⟩ := hcanonical
    rw [parts_ofParts s hm hc, if_pos (show e ≤ 971 from hr)]

/-! ## Doubles written down by their bits -/

theorem toNat_unpackMantissa (b : BitVec 64) :
    (@unpackMantissa Format.binary64 b).toNat = b.toNat % 2 ^ 52 := by
  change (b.extractLsb 51 0).toNat = _
  rw [BitVec.extractLsb_toNat, Nat.shiftRight_zero]

theorem toNat_unpackExponent (b : BitVec 64) :
    (@unpackExponent Format.binary64 b).toNat = b.toNat / 2 ^ 52 % 2 ^ 11 := by
  change (b.extractLsb 62 52).toNat = _
  rw [BitVec.extractLsb_toNat, Nat.shiftRight_eq_div_pow]

theorem toNat_unpackSign (b : BitVec 64) :
    (@unpackSign Format.binary64 b).toNat = b.toNat / 2 ^ 63 % 2 := by
  change (b.extractLsb 63 63).toNat = _
  rw [BitVec.extractLsb_toNat, Nat.shiftRight_eq_div_pow]

/-- The sign that is written as a truth value. -/
def signOf (negative : Bool) : Sign := if negative then .negative else .positive

theorem signBit_eq (negative : Bool) :
    Number.signBit negative = if negative then 2 ^ 63 else 0 := by
  cases negative <;> rfl

theorem toNat_word (negative : Bool) {bits : Nat} (hbits : bits < 2 ^ 63) :
    (UInt64.ofNat (Number.signBit negative + bits)).toBitVec.toNat =
      (if negative then 2 ^ 63 else 0) + bits := by
  change (UInt64.ofNat _).toNat = _
  rw [UInt64.toNat_ofNat', signBit_eq]
  split <;> omega

theorem sign_word (negative : Bool) {bits : Nat} (hbits : bits < 2 ^ 63) :
    Sign.ofBitVec (@unpackSign Format.binary64
      (UInt64.ofNat (Number.signBit negative + bits)).toBitVec) = signOf negative := by
  have hsign := toNat_unpackSign (UInt64.ofNat (Number.signBit negative + bits)).toBitVec
  rw [toNat_word negative hbits] at hsign
  generalize @unpackSign Format.binary64 _ = b at hsign ⊢
  unfold Sign.ofBitVec signOf
  cases negative with
  | false =>
    rw [if_neg Bool.false_ne_true] at hsign ⊢
    rw [if_pos (BitVec.eq_of_toNat_eq (by rw [hsign, BitVec.toNat_zero]; omega))]
  | true =>
    rw [if_pos rfl] at hsign ⊢
    rw [if_neg fun h => ?_]
    rw [h, BitVec.toNat_zero] at hsign
    omega

theorem parts_ofBits_normal (negative : Bool) {m : Nat} {e : Int} (hm : 0 < m) (hlo : 2 ^ 52 ≤ m)
    (hhi : m < 2 ^ 53) (he : -1074 ≤ e) (he' : e ≤ 971) :
    parts (Float.ofBits
      (UInt64.ofNat (Number.signBit negative + ((e + 1074).toNat * 2 ^ 52 + m)))) =
        .finite (signOf negative) m e hm := by
  have hbits : (e + 1074).toNat * 2 ^ 52 + m < 2 ^ 63 := by omega
  rw [parts_ofBits]
  refine unpack_normal (sign_word negative hbits) ?_ ?_ he he' hm
  · rw [toNat_unpackExponent, toNat_word negative hbits]
    split <;> omega
  · rw [toNat_unpackMantissa, toNat_word negative hbits]
    split <;> omega

theorem parts_ofBits_subnormal (negative : Bool) {m : Nat} (hm : 0 < m) (hhi : m < 2 ^ 52) :
    parts (Float.ofBits (UInt64.ofNat (Number.signBit negative + m))) =
      .finite (signOf negative) m (-1074) hm := by
  have hbits : m < 2 ^ 63 := by omega
  rw [parts_ofBits]
  refine unpack_subnormal (sign_word negative hbits) ?_ ?_ hm
  · rw [toNat_unpackExponent, toNat_word negative hbits]
    split <;> omega
  · rw [toNat_unpackMantissa, toNat_word negative hbits]
    split <;> omega

end Double
end PassiveAggressive

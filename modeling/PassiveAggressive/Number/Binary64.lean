import PassiveAggressive.Number.Power

/-!
# Doubles as exact numbers

A finite double is a whole number times a power of two.  `Reading.ofFloat` takes a
double apart into these, and `nearest` goes the other way: of the doubles, it finds
the one closest to a quotient of whole numbers, and of two equally close ones the
one with the even significand.  Between them every conversion of the library ---
from a decimal numeral, from a whole number, from a quotient, to decimal digits ---
is exact arithmetic followed by at most one rounding.
-/

namespace PassiveAggressive
namespace Number

/-- What a double denotes.  A finite one is `significand · 2 ^ exponent`, with a sign that zero
carries as well. -/
inductive Reading where
  | nan
  | infinite (negative : Bool)
  | finite (negative : Bool) (significand : Nat) (exponent : Int)
  deriving DecidableEq, Repr

/-- The smallest exponent of a double. -/
def leastExponent : Int := -1074

/-- The double taken apart. -/
def Reading.ofFloat (x : Float) : Reading :=
  let bits := x.toBits.toNat
  let negative := twoTo 63 ≤ bits
  let scale : Nat := bits / twoTo 52 % twoTo 11
  let fraction := bits % twoTo 52
  if scale = 2047 then
    if fraction = 0 then .infinite negative else .nan
  else if scale = 0 then .finite negative fraction leastExponent
  else .finite negative (twoTo 52 + fraction) (scale - 1075)

/-- The quotient of whole numbers rounded to the nearest whole number, a half to the even one. -/
def roundHalfEven (num den : Nat) : Nat :=
  let quot := num / den
  let rest := num % den
  if 2 * rest < den then quot
  else if 2 * rest = den then quot + quot % 2
  else quot + 1

/-- Rounding moves a quotient by at most one half. -/
theorem roundHalfEven_near (num den : Nat) (h : 0 < den) :
    2 * num ≤ 2 * den * roundHalfEven num den + den ∧
      2 * den * roundHalfEven num den ≤ 2 * num + den := by
  have hdiv := Nat.div_add_mod num den
  have hlt := Nat.mod_lt num h
  generalize hq : num / den = q at hdiv
  generalize hr : num % den = r at hdiv hlt
  have hmul : 2 * den * q = 2 * (den * q) := by rw [Nat.mul_assoc]
  have hmul1 : 2 * den * (q + 1) = 2 * (den * q) + 2 * den := by
    rw [Nat.mul_add, hmul, Nat.mul_one]
  simp only [roundHalfEven, hq, hr]
  split
  · constructor <;> omega
  · split
    · rcases Nat.mod_two_eq_zero_or_one q with h0 | h1
      · rw [h0, Nat.add_zero]; constructor <;> omega
      · rw [h1]; constructor <;> omega
    · constructor <;> omega

/-- The sign bit of a double. -/
def signBit (negative : Bool) : Nat := if negative then twoTo 63 else 0

/-- Positive or negative infinity. -/
def infinity (negative : Bool) : Float :=
  Float.ofBits (UInt64.ofNat (signBit negative + 2047 * twoTo 52))

/-- Positive or negative zero. -/
def zero (negative : Bool) : Float := Float.ofBits (UInt64.ofNat (signBit negative))

/-- The one value that is no number. -/
def nan : Float := Float.ofBits (UInt64.ofNat (2047 * twoTo 52 + twoTo 51))

/-- The greatest `e` with `2 ^ e ≤ num / den`, for positive numbers. -/
def floorLog2 (num den : Nat) : Int :=
  let guess : Int := (num.log2 : Int) - (den.log2 : Int)
  let reached :=
    if 0 ≤ guess then den * twoTo guess.toNat ≤ num else den ≤ num * twoTo (-guess).toNat
  if reached then guess else guess - 1

/-- `num / den` in units of `2 ^ exponent`, rounded. -/
def inUnits (num den : Nat) (exponent : Int) : Nat :=
  if 0 ≤ exponent then roundHalfEven num (den * twoTo exponent.toNat)
  else roundHalfEven (num * twoTo (-exponent).toNat) den

/-- The double nearest to `num / den`, with the given sign.  A significand that rounds up to the
next power of two carries into the exponent by itself, because the two fields are adjacent. -/
def nearest (negative : Bool) (num den : Nat) : Float :=
  if num = 0 || den = 0 then zero negative
  else
    let exponent := max (floorLog2 num den - 52) leastExponent
    let significand := inUnits num den exponent
    if significand < twoTo 52 then Float.ofBits (UInt64.ofNat (signBit negative + significand))
    else
      let bits := (exponent + 1074).toNat * twoTo 52 + significand
      if 2047 * twoTo 52 ≤ bits then infinity negative
      else Float.ofBits (UInt64.ofNat (signBit negative + bits))

/-- The double nearest to a whole number, infinite if the number is beyond all of them. -/
def ofInt (n : Int) : Float := nearest (n < 0) n.natAbs 1

/-- The double nearest to `digits · 10 ^ exponent`.  Exponents far outside the range of doubles
are answered without computing the power: ten is more than two to the third. -/
def ofDecimal (negative : Bool) (digits : Nat) (exponent : Int) : Float :=
  let places : Int := digits.log2
  if digits = 0 then zero negative
  else if 400 < exponent then infinity negative
  else if places + 3 * exponent < -1200 then zero negative
  else if 0 ≤ exponent then nearest negative (digits * tenTo exponent.toNat) 1
  else nearest negative digits (tenTo (-exponent).toNat)

/-- The whole number a double equals, if it equals one. -/
def toInt? (x : Float) : Option Int :=
  match Reading.ofFloat x with
  | .finite negative significand exponent =>
    let magnitude? : Option Nat :=
      if 0 ≤ exponent then some (significand * twoTo exponent.toNat)
      else
        let unit := twoTo (-exponent).toNat
        if significand % unit = 0 then some (significand / unit) else none
    magnitude?.map fun m => if negative then -(m : Int) else m
  | _ => none

/-- The greatest whole number that is not above a double, if the double is finite. -/
def floor? (x : Float) : Option Int :=
  match Reading.ofFloat x with
  | .finite negative significand exponent =>
    let s : Int := if negative then -(significand : Int) else significand
    some (if 0 ≤ exponent then s * twoTo exponent.toNat else s.fdiv (twoTo (-exponent).toNat))
  | _ => none

/-- How a double compares with a whole number; nothing if it is no number. -/
def compareInt? (x : Float) (n : Int) : Option Ordering :=
  match Reading.ofFloat x with
  | .nan => none
  | .infinite negative => some (if negative then .lt else .gt)
  | .finite negative significand exponent =>
    let s : Int := if negative then -(significand : Int) else significand
    if 0 ≤ exponent then some (compare (s * twoTo exponent.toNat) n)
    else some (compare s (n * twoTo (-exponent).toNat))

end Number
end PassiveAggressive

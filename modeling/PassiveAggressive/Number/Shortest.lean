import PassiveAggressive.Number.Binary64
import PassiveAggressive.Text.Digit

/-!
# The decimal digits of a double

Two ways to choose decimal digits for a double.

* `shortest`: the fewest digits that still read back as the double, and of the
  digit sequences of that length the one nearest to it.
* `significant`: a given number of digits, the exact value rounded to them.

Both work on the exact value.  For the first, the reals that round to
`m · 2 ^ q` form an interval around it, half a unit wide on either side and half as
wide below a power of two; its ends belong to it exactly if `m` is even.  A decimal
grid with a point in the interval has one next to the value, so it is enough to
test the value's two neighbours on the grids of 1, 2, ... digits.
-/

namespace PassiveAggressive
namespace Number

/-- A positive decimal number: the value of the digits, read as `0.d₁d₂d₃…`, times
`10 ^ point`. -/
structure Decimal where
  /-- The digits' values, the first one not zero. -/
  digits : List Nat
  point : Int
  deriving DecidableEq, Repr

/-- The digits of a number, most significant first; none for zero. -/
def digitsOf (n : Nat) : List Nat :=
  if _h : n = 0 then [] else digitsOf (n / 10) ++ [n % 10]
termination_by n
decreasing_by omega

/-- The digits of a number have its value. -/
theorem valueOfDigits_digitsOf (n : Nat) : Text.valueOfDigits (digitsOf n) = n := by
  fun_induction digitsOf n with
  | case1 => simp [Text.valueOfDigits]
  | case2 n _ ih => rw [Text.valueOfDigits_concat, ih]; omega

/-- The list without the zeros at its end. -/
def dropTrailingZeros (ds : List Nat) : List Nat := (ds.reverse.dropWhile (· = 0)).reverse

/-- `digits · 10 ^ exponent` without trailing zeros, for positive `digits`. -/
def Decimal.ofScaled (digits : Nat) (exponent : Int) : Decimal :=
  let ds := digitsOf digits
  ⟨dropTrailingZeros ds, exponent + ds.length⟩

/-- A non-negative rational number, as a numerator over a denominator. -/
structure Ratio where
  num : Nat
  den : Nat

/-- `n · 2 ^ e` as a quotient. -/
def Ratio.binary (n : Nat) (e : Int) : Ratio :=
  if 0 ≤ e then ⟨n * twoTo e.toNat, 1⟩ else ⟨n, twoTo (-e).toNat⟩

/-- `n · 10 ^ e` as a quotient. -/
def Ratio.decimal (n : Nat) (e : Int) : Ratio :=
  if 0 ≤ e then ⟨n * tenTo e.toNat, 1⟩ else ⟨n, tenTo (-e).toNat⟩

/-- The quotient in units of `10 ^ e`, as a quotient again. -/
def Ratio.inDecimalUnits (r : Ratio) (e : Int) : Ratio :=
  if 0 ≤ e then ⟨r.num, r.den * tenTo e.toNat⟩ else ⟨r.num * tenTo (-e).toNat, r.den⟩

/-- The greatest `e` with `10 ^ e ≤ r`, for a positive quotient.  The digit counts of numerator
and denominator leave two candidates. -/
def Ratio.floorLog10 (r : Ratio) : Int :=
  let guess : Int := ((digitsOf r.num).length : Int) - (digitsOf r.den).length
  let unit := r.inDecimalUnits guess
  if unit.den ≤ unit.num then guess else guess - 1

/-- The reals that round to a finite double. -/
structure Neighbourhood where
  low : Ratio
  high : Ratio
  /-- Whether the two ends belong to it. -/
  closed : Bool

/-- The interval around `significand · 2 ^ exponent`. -/
def Neighbourhood.of (significand : Nat) (exponent : Int) : Neighbourhood where
  low :=
    if significand = twoTo 52 ∧ leastExponent < exponent then
      .binary (4 * significand - 1) (exponent - 2)
    else .binary (2 * significand - 1) (exponent - 1)
  high := .binary (2 * significand + 1) (exponent - 1)
  closed := significand % 2 = 0

/-- Whether a quotient lies in the interval. -/
def Neighbourhood.contains (i : Neighbourhood) (r : Ratio) : Bool :=
  let low := i.low.num * r.den
  let high := i.high.num * r.den
  let midLow := r.num * i.low.den
  let midHigh := r.num * i.high.den
  if i.closed then low ≤ midLow && midHigh ≤ high else low < midLow && midHigh < high

/-- The point of the grid of multiples of `10 ^ exponent` that reads back as the value and is
nearest to it; of two equally near ones the even one. -/
def gridPoint? (value : Ratio) (i : Neighbourhood) (exponent : Int) : Option Nat :=
  let unit := value.inDecimalUnits exponent
  let below := unit.num / unit.den
  let fits (n : Nat) : Bool := i.contains (.decimal n exponent)
  match fits below && below ≠ 0, fits (below + 1) with
  | true, true => some (roundHalfEven unit.num unit.den)
  | true, false => some below
  | false, true => some (below + 1)
  | false, false => none

/-- The first grid, of `count`, `count + 1`, ... digits, with a point that reads back.  Seventeen
digits always do. -/
def shortestFrom (value : Ratio) (i : Neighbourhood) (top : Int) : Nat → Nat → Decimal
  | 0, count => .ofScaled (roundHalfEven (value.inDecimalUnits (top - count)).num
      (value.inDecimalUnits (top - count)).den) (top - count)
  | more + 1, count =>
    match gridPoint? value i (top - count) with
    | some n => .ofScaled n (top - count)
    | none => shortestFrom value i top more (count + 1)

/-- The fewest digits that read back as `significand · 2 ^ exponent`, for a positive
significand. -/
def shortest (significand : Nat) (exponent : Int) : Decimal :=
  let value := Ratio.binary significand exponent
  shortestFrom value (.of significand exponent) (value.floorLog10 + 1) 16 1

/-- The value rounded to `count` digits, a half to the even neighbour, for a positive value and a
positive count. -/
def significant (count : Nat) (significand : Nat) (exponent : Int) : Decimal :=
  let value := Ratio.binary significand exponent
  let unit := value.floorLog10 + 1 - count
  let r := value.inDecimalUnits unit
  .ofScaled (roundHalfEven r.num r.den) unit

/-- `significand · 2 ^ exponent` in units of `10 ^ -places`, rounded, a half to the even
neighbour. -/
def inPlaces (places : Nat) (significand : Nat) (exponent : Int) : Nat :=
  let r := Ratio.binary (significand * tenTo places) exponent
  roundHalfEven r.num r.den

end Number
end PassiveAggressive

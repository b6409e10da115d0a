import Mathlib.Algebra.Order.Field.Basic
import PassiveAggressive.Arithmetic

/-!
# Exact numbers

The number system in which the laws of the learner are exact: an ordered field, with
two infinities and a non-number beside it.  The infinities are there because the
learner uses one --- an aggressiveness without a bound --- and computes with it until a
step is found not to be finite.  They combine with each other and with the numbers of
the field as those of doubles do, so that the only difference between the two systems
is that nothing is rounded and nothing overflows.

A field need not have square roots, so the root is a function that comes with it
(`SquareRoot`), and a statement that needs the function to deserve its name says so.
-/

namespace PassiveAggressive

/-- A function that is taken for the square root. -/
class SquareRoot (K : Type) where
  root : K → K

/-- A number of the field, one of the two infinities, or no number. -/
inductive Exact (K : Type) where
  | finite (x : K)
  | infinite (negative : Bool)
  | nan
  deriving DecidableEq

namespace Exact

variable {K : Type}

/-- The number of the field, if it is one. -/
def finite? : Exact K → Option K
  | finite x => some x
  | _ => none

@[simp] theorem finite?_finite (x : K) : (finite x).finite? = some x := rfl

variable [Field K] [LinearOrder K]

/-- Whether a number is below zero, which no number is not. -/
def isNegative : Exact K → Bool
  | finite x => decide (x < 0)
  | infinite negative => negative
  | nan => false

/-- The opposite. -/
def neg : Exact K → Exact K
  | finite x => finite (-x)
  | infinite negative => infinite !negative
  | nan => nan

/-- Infinities of opposite signs have no sum. -/
def add : Exact K → Exact K → Exact K
  | nan, _ | _, nan => nan
  | finite x, finite y => finite (x + y)
  | infinite s, infinite t => if s = t then infinite s else nan
  | infinite s, finite _ | finite _, infinite s => infinite s

/-- Zero has no product with an infinity. -/
def mul : Exact K → Exact K → Exact K
  | nan, _ | _, nan => nan
  | finite x, finite y => finite (x * y)
  | infinite s, infinite t => infinite (s != t)
  | infinite s, finite x | finite x, infinite s =>
    if x = 0 then nan else infinite (s != decide (x < 0))

/-- Division by what is not zero; infinities have no quotient. -/
def div : Exact K → Exact K → Exact K
  | nan, _ | _, nan => nan
  | finite x, finite y => finite (x / y)
  | infinite _, infinite _ => nan
  | infinite s, finite x => infinite (s != decide (x < 0))
  | finite _, infinite _ => finite 0

/-- The absolute value. -/
def abs (x : Exact K) : Exact K := if x.isNegative then x.neg else x

/-- The root of a negative infinity is no number. -/
def sqrt [SquareRoot K] : Exact K → Exact K
  | finite x => finite (SquareRoot.root x)
  | infinite negative => if negative then nan else infinite false
  | nan => nan

/-- The order, in which no number is neither less nor greater than anything. -/
def lt : Exact K → Exact K → Bool
  | nan, _ | _, nan => false
  | finite x, finite y => decide (x < y)
  | infinite s, infinite t => s && !t
  | infinite s, finite _ => s
  | finite _, infinite s => !s

/-- Whether a number is zero. -/
def isZero : Exact K → Bool
  | finite x => decide (x = 0)
  | _ => false

/-- How a number compares with a whole number. -/
def compareInt? : Exact K → Int → Option Ordering
  | finite x, n => some (cmp x n)
  | infinite negative, _ => some (if negative then .lt else .gt)
  | nan, _ => none

omit [LinearOrder K] in
/-- The order of the summands does not matter. -/
protected theorem add_comm (x y : Exact K) : x.add y = y.add x := by
  cases x with
  | nan => cases y <;> rfl
  | finite a =>
    cases y with
    | finite b => exact congrArg finite (add_comm a b)
    | infinite t => rfl
    | nan => rfl
  | infinite s =>
    cases y with
    | finite b => rfl
    | infinite t => cases s <;> cases t <;> rfl
    | nan => rfl

variable [SquareRoot K]

instance : NumberSystem (Exact K) where
  zero := finite 0
  one := finite 1
  half := finite (1 / (1 + 1))
  infinity := infinite false
  ofInt? n := some (finite n)
  quotient? a b := some (finite (a / b))
  add := add
  sub x y := x.add y.neg
  mul := mul
  div := div
  abs := abs
  sqrt := sqrt
  lt := lt
  isZero := isZero
  isFinite x := x.finite?.isSome
  compareInt? := compareInt?

instance : Arithmetic (Exact K) := NumberSystem.toArithmetic (Exact K)

/-! ## The operations on numbers of the field -/

@[simp] theorem zero_eq : (Arithmetic.zero : Exact K) = finite 0 := rfl

@[simp] theorem infinity_eq : (Arithmetic.infinity : Exact K) = infinite false := rfl

@[simp] theorem half_eq : (Arithmetic.half : Exact K) = finite (1 / 2) :=
  congrArg (fun x => finite (1 / x)) one_add_one_eq_two

@[simp] theorem one_eq : (Arithmetic.one : Exact K) = finite 1 := rfl

@[simp] theorem ofInt_eq (n : Int) : (Arithmetic.ofInt n : Exact K) = finite (n : K) := rfl

@[simp] theorem add_finite (x y : K) :
    Arithmetic.add (finite x) (finite y) = .ok (finite (x + y)) := rfl

@[simp] theorem sub_finite (x y : K) :
    Arithmetic.sub (finite x) (finite y) = .ok (finite (x - y)) :=
  congrArg (fun z => Except.ok (finite z)) (sub_eq_add_neg x y).symm

@[simp] theorem mul_finite (x y : K) :
    Arithmetic.mul (finite x) (finite y) = .ok (finite (x * y)) := rfl

theorem div_finite (x : K) {y : K} (hy : y ≠ 0) :
    Arithmetic.div (finite x) (finite y) = .ok (finite (x / y)) := by
  change (if decide (y = 0) = true then _ else _) = _
  rw [if_neg (by simpa using hy)]
  rfl

theorem div_infinite (negative : Bool) {y : K} (hy : y ≠ 0) :
    Arithmetic.div (infinite negative) (finite y) =
      .ok (infinite (negative != decide (y < 0))) := by
  change (if decide (y = 0) = true then _ else _) = _
  rw [if_neg (by simpa using hy)]
  rfl

@[simp] theorem lt_finite (x y : K) :
    Arithmetic.lt (finite x) (finite y) = .ok (decide (x < y)) := rfl

@[simp] theorem isPositive_finite (x : K) :
    Arithmetic.isPositive (finite x) = .ok (decide (0 < x)) := rfl

@[simp] theorem isZero_finite (x : K) : Arithmetic.isZero (finite x) = decide (x = 0) := rfl

@[simp] theorem isFinite_finite (x : K) : Arithmetic.isFinite (finite x) = .ok true := rfl

@[simp] theorem isFinite_infinite (s : Bool) :
    Arithmetic.isFinite (infinite s : Exact K) = .ok false := rfl

theorem isFinite_eq_ok_true_iff (x : Exact K) :
    Arithmetic.isFinite x = .ok true ↔ ∃ y, x = finite y := by
  cases x with
  | finite y => simp
  | infinite s => simp
  | nan =>
    refine ⟨fun h => ?_, by simp⟩
    cases h

variable [IsStrictOrderedRing K]

@[simp] theorem abs_finite (x : K) : Arithmetic.abs (finite x) = .ok (finite |x|) := by
  change Except.ok (if decide (x < 0) = true then finite (-x) else finite x) = _
  by_cases hx : x < 0
  · rw [if_pos (decide_eq_true hx), abs_of_neg hx]
  · rw [if_neg (by simpa using hx), abs_of_nonneg (not_lt.1 hx)]

end Exact
end PassiveAggressive

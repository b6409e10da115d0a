import PassiveAggressive.Arithmetic
import PassiveAggressive.Number.Binary64

/-!
# Doubles as a number system

The operations are those of the hardware.  Whole numbers and their quotients are
rounded once, to the nearest double, and have no double when that would be infinite.
-/

namespace PassiveAggressive
namespace Number

/-- A double that is neither infinite nor a non-number. -/
def finite? (x : Float) : Option Float := if x.isFinite then some x else none

/-- The double nearest to the quotient of two whole numbers, the second one not zero. -/
def quotient (a b : Int) : Float :=
  nearest ((a < 0) != (b < 0)) a.natAbs b.natAbs

instance : NumberSystem Float where
  zero := zero false
  one := ofInt 1
  half := nearest false 1 2
  infinity := infinity false
  ofInt? n := finite? (ofInt n)
  quotient? a b := finite? (quotient a b)
  add x y := x + y
  sub x y := x - y
  mul x y := x * y
  div x y := x / y
  abs := Float.abs
  sqrt := Float.sqrt
  lt x y := decide (x < y)
  isZero x := x == 0
  isFinite := Float.isFinite
  compareInt? := compareInt?

end Number
end PassiveAggressive

import PassiveAggressive.Fault

/-!
# Arithmetic that may fault

The learner is one algorithm, and it is run over several kinds of number: over
doubles, over scalars of which some are whole numbers and some are no numbers at
all, over exact numbers when its laws are studied.  `Arithmetic α` is what the
algorithm needs of them.  An operation returns a result or the fault that stopped
it, so that "the computation went wrong here" is a value like any other.

## The two layers

`NumberSystem F` is the inner layer: total operations on numbers with an infinity,
as doubles have them.  A `NumberSystem` gives an `Arithmetic` in which only a
division by zero and the root of a negative number fault.  The outer layer, scalars
over a number system, is in `PassiveAggressive.Scalar`.
-/

namespace PassiveAggressive

/-- The operations the learner is written in. -/
class Arithmetic (α : Type) where
  zero : α
  one : α
  half : α
  infinity : α
  /-- A whole number, exactly: a count or a sign. -/
  ofInt : Int → α
  add : α → α → Except Fault α
  sub : α → α → Except Fault α
  mul : α → α → Except Fault α
  div : α → α → Except Fault α
  abs : α → Except Fault α
  sqrt : α → Except Fault α
  lt : α → α → Except Fault Bool
  /-- Whether a value equals zero; what is no number does not. -/
  isZero : α → Bool
  isFinite : α → Except Fault Bool

namespace Arithmetic

variable {α : Type} [Arithmetic α]

/-- Whether a value is greater than zero. -/
def isPositive (x : α) : Except Fault Bool := lt zero x

/-- The second value if it is less than the first, else the first. -/
def least (x y : α) : Except Fault α := do
  let less ← lt y x
  .ok (if less then y else x)

end Arithmetic

/-- Numbers with an infinity and total operations. -/
class NumberSystem (F : Type) where
  zero : F
  one : F
  half : F
  infinity : F
  /-- The number nearest to a whole number, if there is a finite one. -/
  ofInt? : Int → Option F
  /-- The number nearest to a quotient of whole numbers, if there is a finite one. -/
  quotient? : Int → Int → Option F
  add : F → F → F
  sub : F → F → F
  mul : F → F → F
  /-- Division by a number other than zero. -/
  div : F → F → F
  abs : F → F
  sqrt : F → F
  lt : F → F → Bool
  isZero : F → Bool
  isFinite : F → Bool
  /-- How a number compares with a whole number, if it does. -/
  compareInt? : F → Int → Option Ordering

namespace NumberSystem

variable {F : Type} [NumberSystem F]

/-- Division, where a zero divisor faults. -/
def divide (x y : F) : Except Fault F :=
  if isZero y then .error .divisionByZero else .ok (div x y)

/-- The square root, where a negative number faults. -/
def root (x : F) : Except Fault F :=
  if lt x zero then .error .negativeRoot else .ok (sqrt x)

/-- The numbers themselves as operands of the learner. -/
@[reducible] def toArithmetic (F : Type) [NumberSystem F] : Arithmetic F where
  zero := zero
  one := one
  half := half
  infinity := infinity
  ofInt n := (ofInt? n).getD infinity
  add x y := .ok (add x y)
  sub x y := .ok (sub x y)
  mul x y := .ok (mul x y)
  div := divide
  abs x := .ok (abs x)
  sqrt := root
  lt x y := .ok (lt x y)
  isZero := isZero
  isFinite x := .ok (isFinite x)

end NumberSystem
end PassiveAggressive

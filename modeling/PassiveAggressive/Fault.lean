import PassiveAggressive.Value

/-!
# Faults

A computation on values of any kind can meet operands it has no meaning for, and a
computation on numbers can leave their range.  `Fault` lists the causes; `message`
holds their wording.
-/

namespace PassiveAggressive

/-- The binary operations of arithmetic. -/
inductive Operation where
  | add
  | sub
  | mul
  | div
  deriving DecidableEq, Repr

/-- The sign of an operation. -/
def Operation.sign : Operation → String
  | add => "+"
  | sub => "-"
  | mul => "*"
  | div => "/"

/-- Why a computation has no result. -/
inductive Fault where
  /-- A mutable value cannot be a key. -/
  | unhashable (kind : Kind)
  /-- The operation has no meaning for operands of these kinds. -/
  | unsupported (operation : Operation) (left right : Kind)
  /-- A sequence can be continued by a sequence of its own kind only. -/
  | notConcatenable (sequence other : Kind)
  /-- A sequence can be repeated a whole number of times only. -/
  | notRepeatable (other : Kind)
  /-- The operands have no order. -/
  | notComparable (left right : Kind)
  /-- The operand has no absolute value. -/
  | noAbsoluteValue (kind : Kind)
  /-- The value does not hold others. -/
  | notIterable (kind : Kind)
  /-- A real number is needed. -/
  | notReal (kind : Kind)
  /-- The whole number is beyond every double. -/
  | tooLarge
  /-- The quotient of two whole numbers is beyond every double. -/
  | quotientTooLarge
  | divisionByZero
  /-- The division by zero of a whole number by a whole number. -/
  | wholeDivisionByZero
  /-- A negative number has no square root. -/
  | negativeRoot
  deriving DecidableEq, Repr

namespace Fault

/-- The wording of a fault. -/
def message : Fault → String
  | unhashable k => "unhashable type: '" ++ k.name ++ "'"
  | unsupported op l r =>
    "unsupported operand type(s) for " ++ op.sign ++ ": '" ++ l.name ++ "' and '" ++ r.name ++ "'"
  | notConcatenable s o =>
    "can only concatenate " ++ s.name ++ " (not \"" ++ o.name ++ "\") to " ++ s.name
  | notRepeatable o => "can't multiply sequence by non-int of type '" ++ o.name ++ "'"
  | notComparable l r =>
    "'<' not supported between instances of '" ++ l.shortName ++ "' and '" ++ r.shortName ++ "'"
  | noAbsoluteValue k => "bad operand type for abs(): '" ++ k.name ++ "'"
  | notIterable k => "'" ++ k.name ++ "' object is not iterable"
  | notReal k => "must be real number, not " ++ k.name
  | tooLarge => "int too large to convert to float"
  | quotientTooLarge => "integer division result too large for a float"
  | divisionByZero => "float division by zero"
  | wholeDivisionByZero => "division by zero"
  | negativeRoot => "math domain error"

end Fault
end PassiveAggressive

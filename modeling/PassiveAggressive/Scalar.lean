import PassiveAggressive.Arithmetic

/-!
# Scalars

What stands where a number is expected need not be one.  A scalar is a whole number
of any size, a truth value (which counts as 0 or 1), a number of the underlying
system, or something foreign, of which only the kind matters.

Whole numbers stay exact among themselves and become numbers of the system when they
meet one, which faults when they are too large.  Foreign operands fault in every
operation, each in its own way, except that sequences continue and repeat as sequences
do: the result is as foreign as they are.
-/

namespace PassiveAggressive

/-- An operand of the learner's arithmetic. -/
inductive Scalar (F : Type) where
  | int (n : Int)
  | bool (b : Bool)
  | real (x : F)
  | foreign (kind : Kind)
  deriving DecidableEq, Repr

namespace Scalar

variable {F : Type}

/-- A scalar that is a number: a whole one or one of the system. -/
inductive Numeric (F : Type) where
  | whole (n : Int)
  | real (x : F)

/-- What the scalar is. -/
def kind : Scalar F → Kind
  | int _ => .int
  | bool _ => .bool
  | real _ => .float
  | foreign k => k

/-- The scalar as a number, if it is one. -/
def numeric? : Scalar F → Option (Numeric F)
  | int n => some (.whole n)
  | bool b => some (.whole (if b then 1 else 0))
  | real x => some (.real x)
  | foreign _ => none

variable [NumberSystem F]

/-- A number in the underlying system. -/
def Numeric.toReal : Numeric F → Except Fault F
  | .whole n =>
    match NumberSystem.ofInt? n with
    | some x => .ok x
    | none => .error .tooLarge
  | .real x => .ok x

/-- An operation on numbers that is exact on whole ones. -/
def Numeric.combine (onWhole : Int → Int → Int) (onReal : F → F → F) :
    Numeric F → Numeric F → Except Fault (Scalar F)
  | .whole a, .whole b => .ok (.int (onWhole a b))
  | a, b => do
    let x ← a.toReal
    let y ← b.toReal
    .ok (.real (onReal x y))

/-- A quotient of numbers, never a whole number. -/
def Numeric.divide : Numeric F → Numeric F → Except Fault (Scalar F)
  | .whole a, .whole b =>
    if b = 0 then .error .wholeDivisionByZero
    else
      match NumberSystem.quotient? a b with
      | some x => .ok (.real x)
      | none => .error .quotientTooLarge
  | a, b => do
    let x ← a.toReal
    let y ← b.toReal
    let q ← NumberSystem.divide x y
    .ok (.real q)

/-- The order of numbers, exact also between whole ones and others. -/
def Numeric.less : Numeric F → Numeric F → Bool
  | .whole a, .whole b => decide (a < b)
  | .real x, .real y => NumberSystem.lt x y
  | .real x, .whole n => NumberSystem.compareInt? x n == some .lt
  | .whole n, .real x => NumberSystem.compareInt? x n == some .gt

/-- What the sum of operands that are not both numbers comes to. -/
def addForeign (l r : Kind) : Except Fault (Scalar F) :=
  match l.sequence? with
  | none => .error (.unsupported .add l r)
  | some s => if r.sequence? = some s then .ok (foreign s) else .error (.notConcatenable s r)

/-- What the product of operands that are not both numbers comes to. -/
def mulForeign (l r : Kind) : Except Fault (Scalar F) :=
  match l.sequence?, r.sequence? with
  | some s, _ => if r = .int ∨ r = .bool then .ok (foreign s) else .error (.notRepeatable r)
  | none, some s => if l = .int ∨ l = .bool then .ok (foreign s) else .error (.notRepeatable l)
  | none, none => .error (.unsupported .mul l r)

/-- A binary operation: one rule for numbers and one for everything else. -/
def binary (onNumbers : Numeric F → Numeric F → Except Fault (Scalar F))
    (onKinds : Kind → Kind → Except Fault (Scalar F)) (a b : Scalar F) :
    Except Fault (Scalar F) :=
  match a.numeric?, b.numeric? with
  | some x, some y => onNumbers x y
  | _, _ => onKinds a.kind b.kind

/-- The absolute value. -/
def abs : Scalar F → Except Fault (Scalar F)
  | int n => .ok (int n.natAbs)
  | bool b => .ok (int (if b then 1 else 0))
  | real x => .ok (real (NumberSystem.abs x))
  | foreign k => .error (.noAbsoluteValue k)

/-- The scalar in the underlying system. -/
def toReal (a : Scalar F) : Except Fault F :=
  match a.numeric? with
  | some x => x.toReal
  | none => .error (.notReal a.kind)

instance : Arithmetic (Scalar F) where
  zero := real NumberSystem.zero
  one := real NumberSystem.one
  half := real NumberSystem.half
  infinity := real NumberSystem.infinity
  ofInt := int
  add := binary (Numeric.combine (· + ·) NumberSystem.add) addForeign
  sub := binary (Numeric.combine (· - ·) NumberSystem.sub)
    fun l r => .error (.unsupported .sub l r)
  mul := binary (Numeric.combine (· * ·) NumberSystem.mul) mulForeign
  div := binary Numeric.divide fun l r => .error (.unsupported .div l r)
  abs := abs
  sqrt a := do
    let x ← toReal a
    let r ← NumberSystem.root x
    .ok (real r)
  lt a b :=
    match a.numeric?, b.numeric? with
    | some x, some y => .ok (x.less y)
    | _, _ => .error (.notComparable a.kind b.kind)
  isZero a :=
    match a with
    | int n => n = 0
    | bool b => !b
    | real x => NumberSystem.isZero x
    | foreign _ => false
  isFinite a := do
    let x ← toReal a
    .ok (NumberSystem.isFinite x)

end Scalar
end PassiveAggressive

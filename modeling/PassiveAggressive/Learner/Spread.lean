import PassiveAggressive.Arithmetic

/-!
# Spread of a stream

The mean and the variance of a stream of values, updated one value at a time.  The
tracker keeps the count, the mean, and the sum of squared differences from the mean;
each new value moves the mean by its share and adds the product of its distances
from the old and the new mean.

## What a fault leaves behind

The three fields change one after the other, so a value that stops the computation
halfway leaves the tracker between two states: it has been counted, but the mean and
the sum are those of the values before.  `observe` therefore returns the tracker
together with the fault.
-/

namespace PassiveAggressive

/-- Running mean and variance. -/
structure Spread (α : Type) where
  count : Nat
  mean : α
  sumSqDiff : α
  deriving DecidableEq, Repr

namespace Spread

variable {α : Type} [Arithmetic α]

/-- The tracker before any value. -/
def start : Spread α := ⟨0, Arithmetic.zero, Arithmetic.zero⟩

/-- The distance of a value from the mean, and the mean moved by its share. -/
def moveMean (s : Spread α) (value : α) : Except Fault (α × α) := do
  let delta ← Arithmetic.sub value s.mean
  let share ← Arithmetic.div delta (Arithmetic.ofInt s.count)
  let mean ← Arithmetic.add s.mean share
  .ok (delta, mean)

/-- The sum of squared differences after a value at distance `delta` from the old mean. -/
def growSum (s : Spread α) (value delta : α) : Except Fault α := do
  let delta' ← Arithmetic.sub value s.mean
  let product ← Arithmetic.mul delta delta'
  Arithmetic.add s.sumSqDiff product

/-- Takes one value into account. -/
def observe (s : Spread α) (value : α) : Spread α × Except Fault Unit :=
  let counted := { s with count := s.count + 1 }
  match counted.moveMean value with
  | .error f => (counted, .error f)
  | .ok (delta, mean) =>
    let moved := { counted with mean }
    match moved.growSum value delta with
    | .error f => (moved, .error f)
    | .ok sum => ({ moved with sumSqDiff := sum }, .ok ())

/-- The sample variance, zero below two values. -/
def variance (s : Spread α) : Except Fault α :=
  if s.count < 2 then .ok Arithmetic.zero
  else Arithmetic.div s.sumSqDiff (Arithmetic.ofInt (s.count - 1))

/-- The standard deviation of the sample. -/
def deviation (s : Spread α) : Except Fault α := do
  let v ← s.variance
  Arithmetic.sqrt v

/-- Every value is counted, whether or not it can be used. -/
@[simp] theorem count_observe (s : Spread α) (value : α) :
    (s.observe value).1.count = s.count + 1 := by
  unfold observe
  simp only
  split
  · rfl
  · split <;> rfl

end Spread
end PassiveAggressive

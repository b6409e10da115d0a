import PassiveAggressive.Arithmetic

/-!
# Loss

A prediction within `epsilon` of the target costs nothing; beyond that it costs its
distance from the target less `epsilon`.  The margin has no sign constraint: a
negative one makes even an exact prediction costly.
-/

namespace PassiveAggressive

variable {α : Type} [Arithmetic α]

/-- The loss of a prediction, insensitive to errors up to `epsilon`.  A value that is not greater
than zero --- which includes what is no number --- counts as no loss. -/
def insensitiveLoss (predicted target epsilon : α) : Except Fault α := do
  let difference ← Arithmetic.sub predicted target
  let distance ← Arithmetic.abs difference
  let excess ← Arithmetic.sub distance epsilon
  let positive ← Arithmetic.isPositive excess
  .ok (if positive then excess else Arithmetic.zero)

end PassiveAggressive

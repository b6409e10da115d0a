import PassiveAggressive.Learner.Weights

/-!
# Scores

The score of an example is the sum of weight times value over its features, added up
from the left.  `score` computes it alone, as a prediction needs it;
`scoreAndNorm` computes the sum of the squared values beside it, as a training step
needs it.  Neither changes the weights.
-/

namespace PassiveAggressive

/-- What a training step reads off an example before it decides anything. -/
structure Margin (α : Type) where
  score : α
  squaredNorm : α
  deriving DecidableEq, Repr

namespace WeightMap

variable {ι α : Type} [Key ι] [Arithmetic α]

/-- The score so far, continued by one feature. -/
def addToScore (m : WeightMap ι α) (score : α) (f : Feature ι α) : Except Fault α := do
  let w ← m.get f.id
  let product ← Arithmetic.mul w f.value
  Arithmetic.add score product

/-- The squared norm so far, continued by one feature. -/
def addToNorm (squaredNorm : α) (f : Feature ι α) : Except Fault α := do
  let square ← Arithmetic.mul f.value f.value
  Arithmetic.add squaredNorm square

/-- The score of an example. -/
def score (m : WeightMap ι α) (x : Features ι α) : Except Fault α :=
  x.foldlM m.addToScore Arithmetic.zero

/-- The score of an example together with its squared norm. -/
def scoreAndNorm (m : WeightMap ι α) (x : Features ι α) : Except Fault (Margin α) :=
  x.foldlM
    (fun acc f => do
      let score ← m.addToScore acc.score f
      let squaredNorm ← addToNorm acc.squaredNorm f
      .ok ⟨score, squaredNorm⟩)
    ⟨Arithmetic.zero, Arithmetic.zero⟩

end WeightMap
end PassiveAggressive

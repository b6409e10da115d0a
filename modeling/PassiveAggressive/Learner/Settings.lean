import PassiveAggressive.Learner.StepSize

/-!
# Settings of a learner

A learner is told its variant, how aggressive it is, and how large an error it
ignores.  The aggressiveness may be left open, and is then the one the variant comes
with.
-/

namespace PassiveAggressive

/-- What a learner is told. -/
structure Settings (α : Type) where
  variant : Variant
  aggressiveness : Option α
  epsilon : α
  deriving DecidableEq, Repr

/-- The aggressiveness in force is not a number greater than zero. -/
structure NotPositive (α : Type) where
  aggressiveness : α

namespace Settings

variable {α : Type} [Arithmetic α]

/-- The aggressiveness in force, which has to be greater than zero; what is no number is not. -/
def resolvedAggressiveness (s : Settings α) : Except (NotPositive α) α :=
  let c := s.aggressiveness.getD (s.variant.defaultAggressiveness α)
  match Arithmetic.isPositive c with
  | .ok true => .ok c
  | _ => .error ⟨c⟩

/-- The settings over another kind of number. -/
def map {α β : Type} (f : α → β) (s : Settings α) : Settings β :=
  ⟨s.variant, s.aggressiveness.map f, f s.epsilon⟩

end Settings
end PassiveAggressive

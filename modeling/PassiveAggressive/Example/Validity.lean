import PassiveAggressive.Learner.Weights

/-!
# Valid examples

The learner assumes that an example has features, that no id occurs twice among them,
and that every number is finite.  `Example.check` says which of these fails first, in
the order in which the features stand; the target comes last.

A value that is no number at all, or an id that is no key, is no complaint about the
example but a fault, as it would be in the learner.
-/

namespace PassiveAggressive

/-- What is wrong with an example. -/
inductive Invalid (ι α : Type) where
  | noFeatures
  /-- The id has occurred before. -/
  | duplicate (id : ι)
  | valueNotFinite (id : ι) (value : α)
  | targetNotFinite (target : α)
  | fault (f : Fault)
  deriving DecidableEq, Repr

namespace Example

variable {ι α : Type} [Key ι] [Arithmetic α]

/-- Checks the features one by one; `seen` holds the ids before them. -/
def checkFeatures (seen : List ι) : Features ι α → Except (Invalid ι α) Unit
  | [] => .ok ()
  | f :: fs =>
    match Key.check f.id with
    | .error e => .error (.fault e)
    | .ok () =>
      if seen.any (Key.same · f.id) then .error (.duplicate f.id)
      else
        match Arithmetic.isFinite f.value with
        | .error e => .error (.fault e)
        | .ok false => .error (.valueNotFinite f.id f.value)
        | .ok true => checkFeatures (f.id :: seen) fs

/-- Checks the target. -/
def checkTarget (target : α) : Except (Invalid ι α) Unit :=
  match Arithmetic.isFinite target with
  | .error e => .error (.fault e)
  | .ok false => .error (.targetNotFinite target)
  | .ok true => .ok ()

/-- Accepts a valid example. -/
def check (x : Features ι α) (target : α) : Except (Invalid ι α) Unit :=
  if x.isEmpty then .error .noFeatures
  else
    match checkFeatures [] x with
    | .error e => .error e
    | .ok () => checkTarget target

end Example
end PassiveAggressive

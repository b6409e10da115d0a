import PassiveAggressive.Learner.Loss
import PassiveAggressive.Learner.Score
import PassiveAggressive.Learner.Settings
import PassiveAggressive.Learner.Spread

/-!
# Training sessions

A session is one pass over a stream of examples.  Each example is scored with the
weights learnt so far; if its loss is positive, the weights move along it by the step
size of the variant, in the direction of the target.  An adaptive session takes the
target into its spread first and widens its margin by the deviation.

## Why a step returns a session even when it fails

An example can stop a step anywhere: an id that is no key, a value that is no
number, a target too large for a double, a negative variance.  What the session has
become by then is part of its behaviour, so `Session.step` returns the session
beside the outcome or the fault, and `moveAlong` returns the weights as far as they
were moved.

## Phases

A step says where it is: it scores, it evaluates, and then either leaves the weights
alone or updates them.  Whatever stops it, it ends idle, ready for the next example,
since `Session.step` resets the phase after `Session.learn` and not inside it.  Only
`finalize` leaves a phase that stays: a finalized session accepts no example.
-/

namespace PassiveAggressive

/-- Where a session is: between two examples, somewhere in a step, or past its last example. -/
inductive Phase where
  | idle
  | scoring
  | evaluating
  | noUpdate
  | updating
  | finalized
  deriving DecidableEq, Repr

/-- The name of a phase. -/
def Phase.name : Phase → String
  | idle => "idle"
  | scoring => "scoring"
  | evaluating => "evaluating"
  | noUpdate => "no_update"
  | updating => "updating"
  | finalized => "finalized"

/-- How many examples a session has seen, by what became of them. -/
structure Counters where
  processed : Nat
  updated : Nat
  noUpdate : Nat
  skipped : Nat
  deriving DecidableEq, Repr

/-- No examples yet. -/
def Counters.none : Counters := ⟨0, 0, 0, 0⟩

/-- What became of an example. -/
inductive Status where
  /-- The weights were moved. -/
  | updated
  /-- The loss was not positive. -/
  | noUpdate
  /-- The step was not finite, and was discarded. -/
  | skipped
  deriving DecidableEq, Repr

/-- The name of a status. -/
def Status.name : Status → String
  | updated => "updated"
  | noUpdate => "no_update"
  | skipped => "skipped"

/-- What a step reports. -/
structure Outcome (α : Type) where
  status : Status
  predicted : α
  squaredNorm : α
  loss : α
  /-- The margin in force at this step. -/
  epsilon : α
  /-- The step size, zero if there was no step. -/
  eta : α
  /-- The signed step size by which the weights move along the example. -/
  coeff : α
  deriving DecidableEq, Repr

/-- Why a step was not taken, or not finished. -/
inductive StepError where
  /-- The session has been finalized. -/
  | finalized
  | fault (f : Fault)
  deriving DecidableEq, Repr

/-- The wording of the error. -/
def StepError.message : StepError → String
  | finalized => "Training session is finalized; no further examples accepted"
  | fault f => f.message

/-- A pass over a stream of examples. -/
structure Session (ι α : Type) where
  settings : Settings α
  /-- The aggressiveness in force, settled when the session is created. -/
  aggressiveness : α
  weights : WeightMap ι α
  /-- The spread of the targets, kept by adaptive sessions. -/
  spread : Option (Spread α)
  phase : Phase
  counters : Counters
  deriving DecidableEq, Repr

namespace Session

variable {ι α : Type} [Key ι] [Arithmetic α]

/-- A new session; an aggressiveness that is not positive creates none. -/
def create (settings : Settings α) : Except (NotPositive α) (Session ι α) := do
  let c ← settings.resolvedAggressiveness
  .ok {
    settings
    aggressiveness := c
    weights := .empty
    spread := if settings.variant.adaptive then some .start else none
    phase := .idle
    counters := .none }

/-- The score of an example with the weights learnt so far. -/
def predict (s : Session ι α) (x : Features ι α) : Except Fault α := s.weights.score x

/-- Adds to one weight, past the learning rule. -/
def adjust (s : Session ι α) (id : ι) (delta : α) : Session ι α × Except Fault Unit :=
  match s.weights.add id delta with
  | .ok weights => ({ s with weights }, .ok ())
  | .error f => (s, .error f)

/-- Ends the stream and hands over the weights. -/
def finalize (s : Session ι α) : Session ι α × List (ι × α) :=
  ({ s with phase := .finalized }, s.weights.entries)

/-- Takes a target into the spread of an adaptive session and gives the margin in force. -/
def margin (s : Session ι α) (target : α) : Session ι α × Except Fault α :=
  match s.spread with
  | none => (s, .ok s.settings.epsilon)
  | some spread =>
    let (spread, observed) := spread.observe target
    ({ s with spread := some spread }, do
      observed
      let deviation ← spread.deviation
      Arithmetic.mul s.settings.epsilon deviation)

/-- Moves the weights along the features by `coeff` times each value, as far as that goes. -/
def moveAlong (m : WeightMap ι α) (coeff : α) :
    Features ι α → WeightMap ι α × Except Fault Unit
  | [] => (m, .ok ())
  | f :: fs =>
    match (do let delta ← Arithmetic.mul coeff f.value; m.add f.id delta) with
    | .error fault => (m, .error fault)
    | .ok moved => moveAlong moved coeff fs

/-- The step size for a positive loss, with the sign that leads to the target. -/
def stepSize (s : Session ι α) (seen : Margin α) (target loss : α) : Except Fault (α × α) := do
  let difference ← Arithmetic.sub target seen.score
  let above ← Arithmetic.isPositive difference
  let eta ← s.settings.variant.rule.size loss seen.squaredNorm s.aggressiveness
  let coeff ← Arithmetic.mul (Arithmetic.ofInt (if above then 1 else -1)) eta
  .ok (eta, coeff)

/-- Learns from an example whose loss is positive and which has been counted as processed. -/
def update (s : Session ι α) (x : Features ι α) (seen : Margin α) (target loss epsilon : α) :
    Session ι α × Except Fault (Outcome α) :=
  let s := { s with phase := .updating }
  match (do let (eta, coeff) ← s.stepSize seen target loss
            let finite ← Arithmetic.isFinite coeff
            .ok (eta, coeff, finite) : Except Fault (α × α × Bool)) with
  | .error f => (s, .error f)
  | .ok (eta, coeff, finite) =>
    let report (status : Status) : Outcome α :=
      ⟨status, seen.score, seen.squaredNorm, loss, epsilon, eta, coeff⟩
    if finite then
      match moveAlong s.weights coeff x with
      | (weights, .error f) => ({ s with weights }, .error f)
      | (weights, .ok ()) =>
        ({ s with
            weights
            counters := { s.counters with updated := s.counters.updated + 1 } },
          .ok (report .updated))
    else
      ({ s with counters := { s.counters with skipped := s.counters.skipped + 1 } },
        .ok (report .skipped))

/-- Counts an example as processed and learns from it if its loss is positive. -/
def settle (s : Session ι α) (x : Features ι α) (seen : Margin α) (target loss epsilon : α) :
    Session ι α × Except Fault (Outcome α) :=
  let s := { s with counters := { s.counters with processed := s.counters.processed + 1 } }
  match Arithmetic.isPositive loss with
  | .error f => (s, .error f)
  | .ok true => s.update x seen target loss epsilon
  | .ok false =>
    ({ s with
        phase := .noUpdate
        counters := { s.counters with noUpdate := s.counters.noUpdate + 1 } },
      .ok ⟨.noUpdate, seen.score, seen.squaredNorm, loss, epsilon, Arithmetic.zero,
        Arithmetic.zero⟩)

/-- Scores an example and learns from it, in a session that still accepts examples.  The
session is left in the phase the step has come to. -/
def learn (s : Session ι α) (x : Features ι α) (target : α) :
    Session ι α × Except Fault (Outcome α) :=
  let s := { s with phase := .scoring }
  match s.weights.scoreAndNorm x with
  | .error f => (s, .error f)
  | .ok seen =>
    let s := { s with phase := .evaluating }
    match s.margin target with
    | (s, .error f) => (s, .error f)
    | (s, .ok epsilon) =>
      match insensitiveLoss seen.score target epsilon with
      | .error f => (s, .error f)
      | .ok loss => s.settle x seen target loss epsilon

/-- One example: the session afterwards, and the outcome or what stopped it.  However the
step ends, the session is idle again. -/
def step (s : Session ι α) (x : Features ι α) (target : α) :
    Session ι α × Except StepError (Outcome α) :=
  if s.phase = .finalized then
    (s, .error .finalized)
  else
    let (s, r) := s.learn x target
    ({ s with phase := .idle }, r.mapError .fault)

/-- A finalized session accepts no example and does not change. -/
theorem step_of_finalized {s : Session ι α} (h : s.phase = .finalized) (x : Features ι α)
    (target : α) : s.step x target = (s, .error .finalized) := by
  simp [step, h]

end Session
end PassiveAggressive

import PassiveAggressive.Configuration.Sections
import PassiveAggressive.Learner.Session
import PassiveAggressive.Value.Operand

/-!
# What the learner says about itself

The one-line descriptions of a tracker, of a model, and of settings that create no
session.
-/

namespace PassiveAggressive

/-- A number to six significant digits. -/
def sixDigits (x : Scalar Float) : Except Fault String := do
  let x ← x.toReal
  .ok (Number.showGeneral 6 x)

/-- The tracker in one line. -/
def Spread.describe (s : Spread (Scalar Float)) : Except Fault String := do
  let mean ← sixDigits s.mean
  let deviation ← s.deviation
  let deviation ← sixDigits deviation
  .ok ("OnlineVarianceTracker(count=" ++ Number.showNat s.count ++ ", mean=" ++ mean ++
    ", stddev=" ++ deviation ++ ")")

/-- The model in one line. -/
def WeightMap.describe {ι α : Type} (m : WeightMap ι α) : String :=
  "WeightModel(n_features=" ++ Number.showNat m.size ++ ")"

/-- The wording of the error. -/
def NotPositive.message (e : NotPositive Float) : String :=
  "Aggressiveness parameter C must be C > 0: " ++ Number.showFloat e.aggressiveness

/-- The settings with their numbers as operands. -/
def Settings.operands (s : Settings Float) : Settings (Scalar Float) := s.map .real

/-- The aggressiveness in force. -/
def Settings.resolved (s : Settings Float) : Except (NotPositive Float) Float :=
  @resolvedAggressiveness Float (NumberSystem.toArithmetic Float) s

/-- The ids and weights of examples and models of any kind. -/
abbrev Operand := Scalar Float

/-- The features of an example as data files hold them. -/
abbrev OpenFeatures := Features Value Operand

/-- A session over ids and numbers of any kind. -/
abbrev OpenSession := Session Value Operand

/-- Creates a session with the given settings. -/
def Session.open (s : Settings Float) : Except (NotPositive Float) OpenSession :=
  match Session.create s.operands with
  | .ok session => .ok session
  | .error e => .error ⟨match e.aggressiveness with
    | .real x => x
    | _ => Number.nan⟩

end PassiveAggressive

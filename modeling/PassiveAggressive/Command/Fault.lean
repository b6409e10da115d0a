import PassiveAggressive.Configuration.Document
import PassiveAggressive.Example.File
import PassiveAggressive.Learner.Description
import PassiveAggressive.Log.Sink
import PassiveAggressive.Weights.File

/-!
# What can go wrong in a command

A command can fail because of what the user gave it: a file that is missing, an entry
of the configuration, an example, a weight.  Then the user is told in one message
(`isInput`).  Every other fault is passed on as it is.
-/

namespace PassiveAggressive

/-- A missing file is the user's concern; other obstacles are not. -/
def FileFault.isInput : FileFault → Bool
  | missing _ => true
  | _ => false

/-- What is wrong with a configuration's entries is the user's concern; a document that cannot be
read is not. -/
def ConfigurationFault.isInput : ConfigurationFault → Bool
  | missingFile _ | rejected _ => true
  | unreadable e => e.isInput
  | _ => false

/-- Of opening a log, only a folder that cannot be named is the user's concern. -/
def Log.SinkFault.isInput : Log.SinkFault → Bool
  | folder e => e.isInput
  | _ => false

/-- A missing file and a wrong row are the user's concern; a file that is no table is not. -/
def ExamplesFault.isInput : ExamplesFault → Bool
  | missingFile _ => true
  | unreadable e => e.isInput
  | malformed _ => false
  | row e => e.isComplaint

/-- A missing file and a missing id are the user's concern. -/
def Weights.LoadFault.isInput : Weights.LoadFault → Bool
  | missingFile _ | emptyFeature _ _ => true
  | unreadable e => e.isInput
  | _ => false

/-- Why a command did not get to its end. -/
inductive CommandFault where
  | configuration (e : ConfigurationFault)
  | log (e : Log.SinkFault)
  | variant (e : UnknownVariant)
  | aggressiveness (e : NotPositive Float)
  | examples (e : ExamplesFault)
  | weights (e : Weights.LoadFault)
  /-- A step of training failed. -/
  | step (e : StepError)
  /-- The weights could not be written. -/
  | output (e : FileFault)
  /-- An example could not be scored. -/
  | score (e : Fault)

namespace CommandFault

/-- Whether the fault is the user's concern. -/
def isInput : CommandFault → Bool
  | configuration e => e.isInput
  | log e => e.isInput
  | variant _ | aggressiveness _ => true
  | examples e => e.isInput
  | weights e => e.isInput
  | step _ | output _ | score _ => false

/-- The wording of the fault. -/
def message : CommandFault → String
  | configuration e => e.message
  | log e => e.message
  | variant e => e.message
  | aggressiveness e => e.message
  | examples e => e.message
  | weights e => e.message
  | step e => e.message
  | output e => e.message
  | score e => e.message

end CommandFault
end PassiveAggressive

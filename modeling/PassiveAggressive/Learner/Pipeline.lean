import PassiveAggressive.Learner.Description
import PassiveAggressive.Observation.Instrumentation

/-!
# Pipelines

A pipeline feeds a stream of examples to one session and reports on the way: that it
started, how far it has come, that it is done or has failed, and how long that took.
The reports are `Notice`s; their wording is separate from the run, so that a run over
any kind of number can be studied by what it reports.

## What survives a failure

An example that stops a step stops the run: the examples after it are not touched,
but the session keeps what it has learnt, the time spent is recorded, and a later
run goes on from there.
-/

namespace PassiveAggressive

/-- The counters of a session with their names, the number of weights among them. -/
def Session.counts {ι α : Type} (s : Session ι α) : List (String × Nat) :=
  [("processed", s.counters.processed), ("updated", s.counters.updated),
    ("no_update", s.counters.noUpdate), ("skipped", s.counters.skipped),
    ("features", s.weights.size)]

/-- What a pipeline reports. -/
inductive Notice (α τ : Type) where
  | created (variant : Variant) (aggressiveness epsilon : α)
  | started
  | progress (processed updated features : Nat)
  | done (counts : List (String × Nat))
  | failed
  | took (elapsed : τ)
  | recorded (line : Log.Line)
  | finalized (instrumentation : Instrumentation τ)

/-- A session that is fed by a stream. -/
structure Pipeline (ι α τ : Type) where
  session : Session ι α
  instrumentation : Instrumentation τ
  /-- How many examples apart progress is reported; never, if zero. -/
  logEvery : Int

/-- One example of a stream. -/
abbrev Example (ι α : Type) := Features ι α × α

namespace Pipeline

variable {ι α τ : Type} [Key ι] [Arithmetic α]

/-- A pipeline around a new session. -/
def around (session : Session ι α) (presence : Presence) (logEvery : Int) :
    Pipeline ι α τ × Notice α τ :=
  (⟨session, .new presence, logEvery⟩,
    .created session.settings.variant session.aggressiveness session.settings.epsilon)

/-- A single example. -/
def feed (p : Pipeline ι α τ) (x : Features ι α) (target : α) :
    Pipeline ι α τ × Except StepError (Outcome α) :=
  let (session, r) := p.session.step x target
  ({ p with session }, r)

/-- Whether progress is reported when this many examples have been processed. -/
def reportsAt (logEvery : Int) (processed : Nat) : Bool :=
  logEvery ≠ 0 && (processed : Int) % logEvery = 0

/-- The report on the progress of a session, if one is due. -/
def progress (logEvery : Int) (s : Session ι α) : List (Notice α τ) :=
  if reportsAt logEvery s.counters.processed then
    [.progress s.counters.processed s.counters.updated s.weights.size]
  else []

/-- Feeds examples to a session until one of them fails. -/
def stream (logEvery : Int) (s : Session ι α) :
    List (Example ι α) → Session ι α × List (Notice α τ) × Except StepError Unit
  | [] => (s, [], .ok ())
  | (x, target) :: rest =>
    match s.step x target with
    | (s, .error e) => (s, [], .error e)
    | (s, .ok _) =>
      let (s', notices, r) := stream logEvery s rest
      (s', progress logEvery s ++ notices, r)

/-- The name under which the time of a stream is recorded. -/
def streamName : String := "train_stream"

/-- Runs a stream of examples. -/
def run [NumberSystem τ] (p : Pipeline ι α τ) (examples : List (Example ι α)) (c : Clock τ) :
    Pipeline ι α τ × List (Notice α τ) × Except StepError Unit × Clock τ :=
  let since := c.now
  let (instrumentation, c) := p.instrumentation.enter streamName c.looked
  let (session, notices, r) := stream p.logEvery p.session examples
  let (instrumentation, c) := instrumentation.leave streamName true c
  let p := { p with session, instrumentation }
  match r with
  | .error e => (p, .started :: notices ++ [.failed], .error e, c)
  | .ok () =>
    (p, .started :: notices ++ [.done session.counts, .took (NumberSystem.sub c.now since)],
      .ok (), c.looked)

/-- The score of an example with the weights learnt so far. -/
def predict (p : Pipeline ι α τ) (x : Features ι α) : Except Fault α := p.session.predict x

/-- Ends the stream, records the counters as metrics, and hands over the weights. -/
def finalize (p : Pipeline ι α τ) : Pipeline ι α τ × List (Notice α τ) × List (ι × α) :=
  let (session, weights) := p.session.finalize
  let (instrumentation, lines) := p.instrumentation.recordAll
    (session.counts.map fun e => (e.1, .int e.2))
  ({ p with session, instrumentation }, lines.map .recorded ++ [.finalized instrumentation],
    weights)

end Pipeline

namespace Notice

/-- The text of an operand in a report. -/
def operandText (x : Operand) : String := (x.value?.getD .null).display

/-- The log line of a report. -/
def line : Notice Operand Float → Log.Line
  | created v c e =>
    Log.info ("[TrainingPipeline] session created variant=" ++ v.name ++ " C=" ++ operandText c ++
      " epsilon=" ++ operandText e)
  | started => Log.info "[TrainingPipeline] START"
  | progress p u f =>
    Log.info ("[Progress] processed=" ++ Number.showNat p ++ " updated=" ++ Number.showNat u ++
      " features=" ++ Number.showNat f)
  | done counts =>
    Log.info ("[TrainingPipeline] DONE " ++
      (Value.dict (counts.map fun e => (.text e.1, .int e.2))).display)
  | failed => Log.error "[ERROR] run: training stream failed"
  | took t => Log.info ("[TIME] run took " ++ Instrumentation.seconds t)
  | recorded l => l
  | finalized i => Log.info ("[TrainingPipeline] FINALIZED " ++ i.summary)

end Notice
end PassiveAggressive

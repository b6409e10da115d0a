import PassiveAggressive.Command.Arguments
import PassiveAggressive.Command.Fault
import PassiveAggressive.Learner.Pipeline
import PassiveAggressive.Screen.Markup

/-!
# Running a command

A command reads and writes files, prints lines on the screen and leaves lines in the
log.  What it has done so far is a `Progress`, which survives a failure: a run that
stops half-way has printed what it printed.

## Two ways to stop

While a command gathers what it needs, a fault that is the user's concern is told on
the screen, and the command ends with the exit code 2.  Every other fault, and every
fault after that, is passed on, and the exit code is 1.  A command line that makes no
sense ends with 2 as well, and prints nothing here.

The log begins with the configuration, for that says where the log is.  What happens
before leaves no lines, and neither does a log that could not be opened.
-/

namespace PassiveAggressive
namespace Command

/-- The version of the program. -/
def programVersion : String := "0.1.0"

/-- Where a command runs. -/
structure World where
  environment : Variables
  /-- The text of the file of bindings, if there is one. -/
  bindings : Option String
  files : Files
  clock : Clock Float

/-- What a command has done so far. -/
structure Progress where
  files : Files
  printed : String
  sink : Option Log.Sink
  /-- The lines that the log has kept. -/
  lines : List Log.Line

/-- Why a command stops before its end. -/
inductive Stop where
  /-- The user has been told. -/
  | told
  | fault (e : CommandFault)

/-- A part of a command. -/
abbrev Run (α : Type) := ExceptT Stop (StateM Progress) α

namespace Run

/-- A value, or a fault. -/
def ofExcept {α ε : Type} (cause : ε → CommandFault) : Except ε α → Run α
  | .ok a => pure a
  | .error e => throw (.fault (cause e))

/-- Prints a line in markup. -/
def print (markup : String) : Run Unit :=
  modify fun p => { p with printed := p.printed ++ Screen.shown markup }

/-- Gives lines to the log, which keeps those that are important enough. -/
def note (lines : List Log.Line) : Run Unit :=
  modify fun p =>
    match p.sink with
    | some s => { p with lines := p.lines ++ s.keep lines }
    | none => p

/-- A part in which the user is told of a fault that is of concern. -/
def telling {α : Type} (r : Run α) : Run α :=
  tryCatch r fun
    | .told => throw .told
    | .fault e => do
      if e.isInput then
        print (Screen.literal "red" e.message)
        throw .told
      else throw (.fault e)

end Run

/-- Reads the configuration and opens the log. -/
def configure (w : World) (config : Option Path) : Run Configuration := do
  let p ← get
  let path := config.map Path.display
  let c ← Run.ofExcept .configuration
    (Configuration.load w.environment w.bindings p.files path)
  let (files, opened) := Log.Sink.open p.files c.log
  set { p with files }
  let sink ← Run.ofExcept .log opened
  set { p with files, sink := some sink }
  pure c

/-- Reads the examples of a file. -/
def readExamples (layout : TableLayout) (input : Path) : Run (List ReadExample) := do
  let (lines, r) := Examples.load (← get).files layout input
  Run.note lines
  Run.ofExcept .examples r

/-- An example as the learner takes it. -/
def operands (e : ReadExample) : Example Value Operand :=
  (e.1.map fun f => ⟨f.id, f.value.scalar⟩, .real e.2)

/-! ## Training -/

/-- The settings of the configuration with those of the command line. -/
def Training.settings (t : Training) (s : Settings Float) :
    Except UnknownVariant (Settings Float) := do
  let variant ←
    match t.variant with
    | some name => Variant.resolve (.text name)
    | none => .ok s.variant
  .ok {
    variant
    aggressiveness := t.aggressiveness.or s.aggressiveness
    epsilon := t.epsilon.getD s.epsilon }

/-- The pipeline and the examples to train with. -/
def Training.prepare (t : Training) (w : World) :
    Run (Pipeline Value Operand Float × List ReadExample) := do
  let c ← configure w t.config
  let settings ← Run.ofExcept .variant (t.settings c.learner)
  let session ← Run.ofExcept .aggressiveness (Session.open settings)
  let (pipeline, created) := Pipeline.around session .on 0
  Run.note [created.line]
  let examples ← readExamples c.table t.input
  pure (pipeline, examples)

/-- The line about the counters of a session. -/
def countsLine (counts : List (String × Nat)) : String :=
  Text.joinWith " " (counts.map fun c => c.1 ++ "=" ++ Number.showNat c.2)

/-- Writes the weights. -/
def writeWeights (output : Path) (weights : List (Value × Operand)) : Run Unit := do
  let p ← get
  let pairs := weights.map fun e => (e.1, e.2.value?.getD .null)
  let (files, line) ← Run.ofExcept .output (Weights.save p.files output pairs)
  set { p with files }
  Run.note [line]

/-- Trains on the examples of a file and writes the weights. -/
def Training.run (t : Training) (w : World) : Run Unit := do
  let (pipeline, examples) ← Run.telling (t.prepare w)
  Run.print (Screen.coloured "green" ("Training " ++ pipeline.session.settings.variant.name ++
    " on " ++ Number.showNat examples.length ++ " examples"))
  let (pipeline, notices, r, _) := pipeline.run (examples.map operands) w.clock
  Run.note (notices.map Notice.line)
  Run.ofExcept .step r
  let (pipeline, notices, weights) := pipeline.finalize
  Run.note (notices.map Notice.line)
  writeWeights t.output weights
  Run.print (Screen.coloured "blue" (countsLine pipeline.session.counts))

/-! ## Prediction -/

/-- The line about an example: its score and its target. -/
def scoreLine (score : Operand) (target : Float) : Except Fault String := do
  let x ← score.toReal
  .ok (Number.showFixed 6 x ++ "\t" ++ Number.showFloat target)

/-- The model and the examples to predict with. -/
def Prediction.prepare (q : Prediction) (w : World) :
    Run (WeightMap Value Operand × List ReadExample) := do
  let c ← configure w q.config
  let model ← Run.ofExcept .weights (Weights.load (← get).files q.weights c.table.intIds)
  let examples ← readExamples c.table q.input
  pure (model, examples)

/-- Prints the scores of the examples of a file. -/
def Prediction.run (q : Prediction) (w : World) : Run Unit := do
  let (model, examples) ← Run.telling (q.prepare w)
  examples.forM fun e => do
    let line ← Run.ofExcept .score (do
      let score ← model.score (operands e).1
      scoreLine score e.2)
    Run.print line
  Run.note [Log.info ("[CLI] predicted rows=" ++ Number.showNat examples.length)]

/-! ## Reports -/

/-- What a command leaves behind. -/
structure Report where
  exitCode : Nat
  printed : String
  files : Files
  /-- The log that was opened, and the lines in it. -/
  log : Option (Log.Sink × List Log.Line)
  /-- The fault that was passed on. -/
  fault : Option CommandFault

/-- What a run leaves behind. -/
def Report.ofRun (files : Files) (r : Run Unit) : Report :=
  let (result, p) := r.run.run ⟨files, "", none, []⟩
  let (exitCode, fault) : Nat × Option CommandFault :=
    match result with
    | .ok () => (0, none)
    | .error .told => (2, none)
    | .error (.fault e) => (1, some e)
  ⟨exitCode, p.printed, p.files, p.sink.map fun s => (s, p.lines), fault⟩

/-- The steps of a command. -/
def run (c : Command) (w : World) : Run Unit :=
  match c with
  | .version => Run.print ("v" ++ programVersion)
  | .train t => t.run w
  | .predict q => q.run w

/-- What a command line leaves behind. -/
def report (words : List String) (w : World) : Report :=
  match ofWords words with
  | some c => .ofRun w.files (c.run w)
  | none => ⟨2, "", w.files, none, none⟩

end Command
end PassiveAggressive

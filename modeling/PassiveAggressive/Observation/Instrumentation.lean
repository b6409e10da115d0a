import PassiveAggressive.Number.Double
import PassiveAggressive.Number.Rendering
import PassiveAggressive.Observation.Metrics
import PassiveAggressive.Observation.Timer

/-!
# Instrumentation

The instrumentation of a run is a timer, a timeline and a metrics recorder.  A block
of work is timed from `enter` to `leave`; its time goes to the timeline unless the
block only encloses others.

Instrumentation is on, off, or absent.  The last two record nothing and differ in
how they say so.
-/

namespace PassiveAggressive

/-- Whether a run is instrumented. -/
inductive Presence where
  | on
  | off
  | absent
  deriving DecidableEq, Repr

/-- The timer, the timeline and the metrics of a run. -/
structure Instrumentation (τ : Type) where
  presence : Presence
  timer : Timer τ
  /-- The time spent in the blocks that are recorded. -/
  timeline : Named τ
  metrics : Metrics

namespace Instrumentation

variable {τ : Type}

/-- Instrumentation that has recorded nothing yet. -/
def new (presence : Presence) : Instrumentation τ :=
  ⟨presence, .new (presence = .on), .empty, .new (presence = .on)⟩

/-- Begins a block. -/
def enter (i : Instrumentation τ) (name : String) (c : Clock τ) : Instrumentation τ × Clock τ :=
  if i.presence = .on then
    let (timer, c) := i.timer.begin name c
    ({ i with timer }, c)
  else (i, c)

/-- Ends a block, whether its work was done or failed. -/
def leave [NumberSystem τ] (i : Instrumentation τ) (name : String) (recorded : Bool)
    (c : Clock τ) : Instrumentation τ × Clock τ :=
  if i.presence = .on then
    let (timer, elapsed, c) := i.timer.stop name c
    let spent := (i.timeline.get? name).getD NumberSystem.zero
    let timeline :=
      if recorded then i.timeline.put name (NumberSystem.add spent elapsed) else i.timeline
    ({ i with timer, timeline }, c)
  else (i, c)

/-- Records metrics, and gives the lines they leave in the log. -/
def recordAll (i : Instrumentation τ) (values : List (String × Value)) :
    Instrumentation τ × List Log.Line :=
  let (metrics, lines) := i.metrics.recordAll values
  ({ i with metrics }, lines)

/-- A time in seconds, to a tenth of a millisecond. -/
def seconds (t : Float) : String := Number.showFixed 4 t ++ "s"

/-- The timeline in one line. -/
def summary (i : Instrumentation Float) : String :=
  match i.presence, i.timeline.entries with
  | .absent, _ => "timeline=<disabled>"
  | _, [] => "timeline=<empty>"
  | _, es => "timeline: " ++ Text.joinWith ", " (es.map fun e => e.1 ++ "=" ++ seconds e.2)

end Instrumentation
end PassiveAggressive

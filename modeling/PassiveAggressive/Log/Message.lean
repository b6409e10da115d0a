import PassiveAggressive.Log.Level
import PassiveAggressive.Observation.Instrumentation
import PassiveAggressive.Template.Fill
import PassiveAggressive.Value.Json

/-!
# Messages and reports

A message that comes with arguments is a template; one that comes alone is taken as it
is, braces and all.

A call can be reported: what it was called with, what it returned and how long it
took, or else that it failed.  A failed call is reported as failed and as nothing
else, whatever was asked for, and its time is not read from the clock.
-/

namespace PassiveAggressive
namespace Log

/-- The line of a message with arguments in order and by name. -/
def write (level : Level) (message : String) (positional : List Value)
    (named : List (String × Value)) : Except TemplateFault Line :=
  if positional.isEmpty && named.isEmpty then .ok ⟨level, message⟩
  else (Template.fill positional named message).map fun text => ⟨level, text⟩

/-- What is reported about a call. -/
structure CallReport where
  /-- What is said about a failure. -/
  failure : Value
  inputs : Bool
  outputs : Bool
  time : Bool

/-- The report where nothing is asked for. -/
def CallReport.default : CallReport := ⟨.text "Exception occurred", false, false, true⟩

namespace CallReport

/-- The line before a call. -/
def calledLine (name : String) (positional : List Value) (named : List (String × Value)) : Line :=
  info ("[CALL] " ++ name ++ " args=" ++ (Value.tuple positional).literal ++ ", kwargs=" ++
    (Value.dict (named.map fun e => (.text e.1, e.2))).json)

/-- The line about a result. -/
def returnedLine (name : String) (result : Value) : Line :=
  info ("[RETURN] " ++ name ++ " result=" ++ result.display)

/-- The line about the time of a call. -/
def tookLine (name : String) (elapsed : Float) : Line :=
  info ("[TIME] " ++ name ++ " took " ++ Instrumentation.seconds elapsed)

/-- The line about a failure. -/
def failedLine (r : CallReport) (name : String) : Line :=
  error ("[ERROR] " ++ name ++ ": " ++ r.failure.display)

/-- A line that is wanted or not. -/
def line (wanted : Bool) (l : Line) : List Line := if wanted then [l] else []

/-- The lines that a call with the given outcome leaves in the log. -/
def lines {ε : Type} (r : CallReport) (name : String) (positional : List Value)
    (named : List (String × Value)) (c : Clock Float) (outcome : Except ε Value) : List Line :=
  line r.inputs (calledLine name positional named) ++
    match outcome with
    | .error _ => [r.failedLine name]
    | .ok result =>
      line r.outputs (returnedLine name result) ++
        line r.time (tookLine name (c.looked.now - c.now))

end CallReport
end Log
end PassiveAggressive

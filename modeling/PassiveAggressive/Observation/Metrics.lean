import PassiveAggressive.Log.Level
import PassiveAggressive.Observation.Named
import PassiveAggressive.Value.Literal

/-!
# Metrics

A metric is a value of any kind under a name.  Recording one writes it to the log;
a recorder that is off does neither.
-/

namespace PassiveAggressive

/-- The values recorded so far. -/
structure Metrics where
  enabled : Bool
  values : Named Value

namespace Metrics

/-- No metrics yet. -/
def new (enabled : Bool) : Metrics := ⟨enabled, .empty⟩

/-- The log line of a metric. -/
def line (name : String) (value : Value) : Log.Line :=
  Log.info ("[Metric] " ++ name ++ " = " ++ value.display)

/-- Records one value, and gives the lines it leaves in the log. -/
def record (m : Metrics) (name : String) (value : Value) : Metrics × List Log.Line :=
  if m.enabled then ({ m with values := m.values.put name value }, [line name value])
  else (m, [])

/-- Records values one after the other. -/
def recordAll (m : Metrics) : List (String × Value) → Metrics × List Log.Line
  | [] => (m, [])
  | e :: es =>
    let (m, first) := m.record e.1 e.2
    let (m, rest) := m.recordAll es
    (m, first ++ rest)

end Metrics
end PassiveAggressive

import PassiveAggressive.Arithmetic
import PassiveAggressive.Observation.Named

/-!
# Timers

A timer measures named stretches of time: `begin` notes when a stretch began, `stop`
says how long it has been and adds that to the name's total.  A name that is begun
twice is measured from its later beginning, and stopping a name that is not running
measures nothing.

The clock is a sequence of readings, of which each use takes the next.  A timer that
is off never looks at it.
-/

namespace PassiveAggressive

/-- A clock: the reading at each look, and the number of looks so far. -/
structure Clock (τ : Type) where
  reading : Nat → τ
  looks : Nat

namespace Clock

variable {τ : Type}

/-- A clock that stands still. -/
def still (now : τ) : Clock τ := ⟨fun _ => now, 0⟩

/-- What the clock shows at the next look. -/
def now (c : Clock τ) : τ := c.reading c.looks

/-- The clock after a look. -/
def looked (c : Clock τ) : Clock τ := { c with looks := c.looks + 1 }

end Clock

/-- Measures stretches of time by name. -/
structure Timer (τ : Type) where
  enabled : Bool
  /-- When the running stretches began. -/
  begun : Named τ
  /-- What the stopped stretches of a name come to. -/
  totals : Named τ

namespace Timer

variable {τ : Type}

/-- A timer that has measured nothing yet. -/
def new (enabled : Bool) : Timer τ := ⟨enabled, .empty, .empty⟩

/-- Whether a name is running. -/
def running (t : Timer τ) (name : String) : Bool := t.begun.has name

/-- Begins to measure a name. -/
def begin (t : Timer τ) (name : String) (c : Clock τ) : Timer τ × Clock τ :=
  if t.enabled then ({ t with begun := t.begun.put name c.now }, c.looked) else (t, c)

variable [NumberSystem τ]

/-- Stops measuring a name: the timer, the time since the name was begun, and the clock. -/
def stop (t : Timer τ) (name : String) (c : Clock τ) : Timer τ × τ × Clock τ :=
  match t.begun.get? name with
  | none => (t, NumberSystem.zero, c)
  | some since =>
    if t.enabled then
      let elapsed := NumberSystem.sub c.now since
      let total := NumberSystem.add ((t.totals.get? name).getD NumberSystem.zero) elapsed
      (⟨t.enabled, t.begun.erase name, t.totals.put name total⟩, elapsed, c.looked)
    else (t, NumberSystem.zero, c)

end Timer
end PassiveAggressive

/-!
# Levels of log lines

Every log line has a level, and a sink keeps the lines whose level is not below its
own.  A sink may be given the level by name; the names are the seven below, in
capitals.
-/

namespace PassiveAggressive
namespace Log

/-- How important a log line is. -/
inductive Level where
  | trace
  | debug
  | info
  | success
  | warning
  | error
  | critical
  deriving DecidableEq, Repr

namespace Level

/-- All levels, from the least important on. -/
def all : List Level := [trace, debug, info, success, warning, error, critical]

/-- The name of a level. -/
def name : Level → String
  | trace => "TRACE"
  | debug => "DEBUG"
  | info => "INFO"
  | success => "SUCCESS"
  | warning => "WARNING"
  | error => "ERROR"
  | critical => "CRITICAL"

/-- The rank by which levels are compared. -/
def rank : Level → Nat
  | trace => 5
  | debug => 10
  | info => 20
  | success => 25
  | warning => 30
  | error => 40
  | critical => 50

/-- The level with the given name. -/
def named? (s : String) : Option Level := all.find? fun l => l.name = s

end Level

/-- A line of the log. -/
structure Line where
  level : Level
  message : String
  deriving DecidableEq, Repr

/-- The lines that a sink of the given level keeps. -/
def keep (least : Level) (lines : List Line) : List Line :=
  lines.filter fun l => least.rank ≤ l.level.rank

/-- A line of level `info`. -/
def info (message : String) : Line := ⟨.info, message⟩

/-- A line of level `warning`. -/
def warning (message : String) : Line := ⟨.warning, message⟩

/-- A line of level `error`. -/
def error (message : String) : Line := ⟨.error, message⟩

end Log
end PassiveAggressive

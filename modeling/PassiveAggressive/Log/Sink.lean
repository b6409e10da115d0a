import PassiveAggressive.Configuration.Sections
import PassiveAggressive.Files
import PassiveAggressive.Log.Level
import PassiveAggressive.Log.Schedule
import PassiveAggressive.Number.Rendering
import PassiveAggressive.Template.Fill

/-!
# Log files

A log is kept in a folder, in one file a day, from the lines that are important
enough.  Opening a log makes the folder and then checks, in this order, the name of
the file, the rotation, the retention and the level; a log that cannot be opened may
therefore leave its folder behind.
-/

namespace PassiveAggressive
namespace Log

/-- The wording of a refusal. -/
def ScheduleFault.message : ScheduleFault → String
  | unknownRotation s => "Cannot parse rotation from: '" ++ s ++ "'"
  | unknownRetention s => "Cannot parse retention from: '" ++ s ++ "'"
  | badSize n => "Invalid float value while parsing size: '" ++ n ++ "'"
  | badDuration n => "Invalid float value while parsing duration: '" ++ n ++ "'"
  | unknownUnit u => "Invalid unit value while parsing duration: '" ++ u ++ "'"
  | tooLong d => "days=" ++ Number.showInt d ++ "; must have magnitude <= " ++
    Number.showInt mostDays
  | endless => "cannot convert float infinity to integer"
  | badDay s => "Invalid day while parsing daytime: '" ++ s ++ "'"
  | badTime s => "Invalid time while parsing daytime: '" ++ s ++ "'"

/-- Why a log cannot be opened. -/
inductive SinkFault where
  | folder (e : FileFault)
  | name (e : TemplateFault)
  | schedule (e : ScheduleFault)
  | unknownLevel (name : String)

/-- The wording of the fault. -/
def SinkFault.message : SinkFault → String
  | folder e => e.message
  | name e => e.message
  | schedule e => e.message
  | unknownLevel l => "Level '" ++ l ++ "' does not exist"

/-- An open log. -/
structure Sink where
  /-- The folder of its files. -/
  folder : Path
  level : Level

/-- What stands for the day in the name of a log file. -/
def day : Value := .text "day"

/-- The name of the files in a folder, in which the time is a field. -/
def fileName (directory : String) : String := directory ++ "/\x7btime\x7d.log"

/-- The name of a log file with its field filled. -/
def filledName (directory : String) : Except TemplateFault String :=
  Template.fillNamed [("time", day)] (fileName directory)

/-- Opens a log. -/
def Sink.open (w : Files) (s : LogSettings) : Files × Except SinkFault Sink :=
  match w.makeFolders s.directory with
  | .error e => (w, .error (.folder e))
  | .ok w =>
    (w, do
      let _ ← (Template.pieces (fileName s.directory)).mapError fun f => SinkFault.name (.flaw f)
      (checkRotation s.rotation).mapError .schedule
      (checkRetention s.retention).mapError .schedule
      let name ← (filledName s.directory).mapError .name
      match Level.named? s.level with
      | none => .error (.unknownLevel s.level)
      | some level => .ok ⟨(Path.ofText name).parent, level⟩)

/-- The lines that a log keeps. -/
def Sink.keep (s : Sink) (lines : List Line) : List Line := Log.keep s.level lines

end Log
end PassiveAggressive

import PassiveAggressive.Command.Run

/-!
# The program

The outer layer: it gathers what a command line names, lets the command run, and puts
what the command leaves behind into the files and on the screen.  A command runs in no
time, so the clock stands still.
-/

namespace PassiveAggressive
namespace Program

/-- The paths of the files that a command reads. -/
def inputs : Command → List Path
  | .version => []
  | .train t => t.input :: t.config.toList
  | .predict p => [p.weights, p.input] ++ p.config.toList

/-- The file of bindings. -/
def bindingsFile : String := ".env"

/-- The file of a log that the lines go to. -/
def logFile (s : Log.Sink) : String := s.folder.display ++ "/latest.log"

/-- What stands at a path. -/
def look (p : Path) : IO Place? := do
  try
    let text ← IO.FS.readFile p.display
    return .file text
  catch e =>
    match e with
    | .noFileOrDirectory .. => return .nothing
    | _ => return .folder

/-- The files with what stands at a path. -/
def gather (w : Files) (p : Path) : IO Files := do
  let place := p.start ++ p.parts
  match ← look p with
  | .file text => return { w with texts := Files.put place text w.texts }
  | .folder => return { w with folders := place :: w.folders }
  | .nothing => return w

/-- The variables that matter. -/
def environment : IO Variables :=
  Configuration.overrides.foldlM (fun v o => do
    match ← IO.getEnv o.1 with
    | some value => return v.put o.1 value
    | none => return v) Named.empty

/-- Where a command runs. -/
def world (c : Option Command) : IO Command.World := do
  let paths := (c.map inputs).getD []
  let files ← paths.foldlM gather (Files.ofList [])
  let bindings ← look (.ofText bindingsFile)
  let text := match bindings with
    | .file text => some text
    | _ => none
  return ⟨← environment, text, files, .still (Number.zero false)⟩

/-- Writes a file into a folder, which is made. -/
def write (p : Path) (text : String) (mode : IO.FS.Mode) : IO Unit := do
  IO.FS.createDirAll p.parent.display
  IO.FS.withFile p.display mode fun h => h.putStr text

/-- The text of a line of the log. -/
def lineText (l : Log.Line) : String := l.level.name ++ " | " ++ l.message ++ "\n"

/-- Puts what a command leaves behind in its place. -/
def settle (before : Files) (r : Command.Report) : IO Unit := do
  for (path, text) in before.changed r.files do
    write (.ofText path) text .write
  match r.log with
  | some (s, lines) =>
    write (.ofText (logFile s)) (String.join (lines.map lineText)) .append
  | none => pure ()
  IO.print r.printed
  match r.fault with
  | some e => IO.eprintln e.message
  | none => pure ()

end Program
end PassiveAggressive

open PassiveAggressive in
/-- Runs the command of a command line. -/
def main (args : List String) : IO UInt32 := do
  let w ← Program.world (Command.ofWords args)
  let r := Command.report args w
  Program.settle w.files r
  return UInt32.ofNat r.exitCode

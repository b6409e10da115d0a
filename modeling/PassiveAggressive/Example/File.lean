import PassiveAggressive.Csv.Reader
import PassiveAggressive.Example.Reading
import PassiveAggressive.Files

/-!
# Examples from a file

A file of examples is a table file.  Reading it reports how many rows it has, and then
what the rows give; the features column holds texts whatever its cells look like.
-/

namespace PassiveAggressive

/-- Why a file gives no examples. -/
inductive ExamplesFault where
  | missingFile (path : String)
  | unreadable (e : FileFault)
  | malformed (e : Csv.Malformed)
  | row (e : RowFault)

/-- The wording of the fault. -/
def ExamplesFault.message : ExamplesFault → String
  | missingFile p => "Example file not found: " ++ p
  | unreadable e => e.message
  | malformed e => e.message
  | row e => e.message

namespace Examples

/-- The log line about a file that has been read. -/
def loadedLine (rows : Nat) (p : Path) : Log.Line :=
  Log.info ("[Dataset] loaded rows=" ++ Number.showNat rows ++ " from " ++ p.display)

/-- The examples in the text of a file, with the lines that reading them leaves in the log. -/
def ofText (layout : TableLayout) (p : Path) (text : String) :
    List Log.Line × Except ExamplesFault (List ReadExample) :=
  match Csv.read layout.featuresColumn text with
  | .error e => ([], .error (.malformed e))
  | .ok t =>
    let r := Reading.ofTable layout t
    (loadedLine t.height p :: r.log,
      match r.stopped with
      | some e => .error (.row e)
      | none => .ok r.examples)

/-- The examples in a file, with the lines that reading them leaves in the log. -/
def load (w : Files) (layout : TableLayout) (p : Path) :
    List Log.Line × Except ExamplesFault (List ReadExample) :=
  if !w.has p then ([], .error (.missingFile p.display))
  else
    match w.read p with
    | .error e => ([], .error (.unreadable e))
    | .ok text => ofText layout p text

end Examples
end PassiveAggressive

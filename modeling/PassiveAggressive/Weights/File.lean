import PassiveAggressive.Csv.Reader
import PassiveAggressive.Example.Token
import PassiveAggressive.Files
import PassiveAggressive.Log.Level
import PassiveAggressive.Value.Operand
import PassiveAggressive.Weights.Columns

/-!
# Weights files

A model is kept in a table file with one row per weight: a column of ids and a column
of weights.  A cell is put in quotation marks if it holds a comma, a quotation mark
or a line feed; a weight is written with the fewest digits that read back, and one
that is no number as an empty cell.

Reading adds up the weights of equal ids, in the order of the rows.  Ids come back as
texts, or as whole numbers where they are made of digits and such ids are wanted.
-/

namespace PassiveAggressive
namespace Weights

/-! ## Writing -/

/-- The characters of a quoted cell: a mark is written twice. -/
def doubled : List Char → List Char
  | [] => []
  | c :: cs => if c = Text.doubleMark then c :: c :: doubled cs else c :: doubled cs

/-- Whether a cell has to be quoted. -/
def needsMarks (cs : List Char) : Bool :=
  cs.any fun c => c = ',' || c = Text.doubleMark || c = '\n'

/-- A cell as it is written. -/
def writtenCell (s : String) : String :=
  if needsMarks s.toList then
    String.ofList (Text.doubleMark :: doubled s.toList ++ [Text.doubleMark])
  else s

/-- The text of a value in a cell; missing values leave it empty. -/
def cellText : Value → String
  | .null => ""
  | .float x => if x.isNaN then "" else Number.showFloat x
  | v => v.display

/-- The name of the column of ids. -/
def featureColumn : String := "feature"

/-- The name of the column of weights. -/
def weightColumn : String := "weight"

/-- A line of a weights file. -/
def writtenRow (id weight : String) : String :=
  writtenCell id ++ "," ++ writtenCell weight ++ "\n"

/-- The text of a weights file. -/
def written (pairs : List (Value × Value)) : String :=
  let ids := column (pairs.map Prod.fst)
  let weights := column (pairs.map Prod.snd)
  String.join (writtenRow featureColumn weightColumn ::
    (ids.zip weights).map fun p => writtenRow (cellText p.1) (cellText p.2))

/-- The log line about a written file. -/
def writtenLine (count : Nat) (p : Path) : Log.Line :=
  Log.info ("[Export] wrote features=" ++ Number.showNat count ++ " to " ++ p.display)

/-- Writes a weights file, making the folder it goes to. -/
def save (w : Files) (p : Path) (pairs : List (Value × Value)) :
    Except FileFault (Files × Log.Line) := do
  let w ← w.makeFolder p.parent
  let w ← w.write p (written pairs)
  .ok (w, writtenLine pairs.length p)

/-! ## Reading -/

/-- Why there is no model in a file. -/
inductive LoadFault where
  | missingFile (path : String)
  | unreadable (e : FileFault)
  | malformed (e : Csv.Malformed)
  | missingColumn (name : String)
  | emptyFeature (path : String) (row : Nat)
  | badInteger (e : Number.IntegerFault)
  | badWeight (text : String)
  | fault (f : Fault)

/-- The wording of the fault. -/
def LoadFault.message : LoadFault → String
  | missingFile p => "Weights file not found: " ++ p
  | unreadable e => e.message
  | malformed e => e.message
  | missingColumn name => Text.quote name
  | emptyFeature p row =>
    "Empty feature in weights file " ++ p ++ " row=" ++ Number.showNat row
  | badInteger e => e.message
  | badWeight s => Number.notAFloat s
  | fault f => f.message

/-- A cell of the weights column as a double. -/
def weightOf (cell : Value) : Except LoadFault Float :=
  match cell with
  | .null => .ok Number.nan
  | v =>
    match v.toFloat? with
    | .ok (some x) => .ok x
    | .ok none => .error (.badWeight v.display)
    | .error f => .error (.fault f)

/-- The id in a cell of the features column. -/
def idOf (path : String) (intIds : Bool) (row : Nat) (cell : Value) : Except LoadFault Value :=
  match cell.text? with
  | none => .error (.emptyFeature path row)
  | some name =>
    (Token.readName intIds name).mapError fun
      | .badInteger e => .badInteger e
      | e => .badWeight e.message

/-- Adds the weights of the rows from `row` on to a model. -/
def addRows (path : String) (intIds : Bool) (row : Nat) (m : WeightMap Value (Scalar Float)) :
    List (Value × Value) → Except LoadFault (WeightMap Value (Scalar Float))
  | [] => .ok m
  | (feature, weight) :: rest => do
    let id ← idOf path intIds row feature
    let w ← weightOf weight
    let m ← (m.add id (.real w)).mapError .fault
    addRows path intIds (row + 1) m rest

/-- The model in a table. -/
def ofTable (path : String) (intIds : Bool) (t : Table) :
    Except LoadFault (WeightMap Value (Scalar Float)) :=
  match t.column? featureColumn, t.column? weightColumn with
  | none, _ => .error (.missingColumn featureColumn)
  | _, none => .error (.missingColumn weightColumn)
  | some features, some weights => addRows path intIds 0 .empty (features.zip weights)

/-- The model in the text of a weights file. -/
def ofText (path : String) (intIds : Bool) (text : String) :
    Except LoadFault (WeightMap Value (Scalar Float)) :=
  match Csv.read featureColumn text with
  | .error e => .error (.malformed e)
  | .ok t => ofTable path intIds t

/-- The model in a weights file. -/
def load (w : Files) (p : Path) (intIds : Bool) :
    Except LoadFault (WeightMap Value (Scalar Float)) :=
  if !w.has p then .error (.missingFile p.display)
  else
    match w.read p with
    | .error e => .error (.unreadable e)
    | .ok text => ofText p.display intIds text

end Weights
end PassiveAggressive

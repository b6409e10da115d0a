import PassiveAggressive.Number.Numeral
import PassiveAggressive.Number.Word64
import PassiveAggressive.Value

/-!
# Columns of a table file

A column is read as a whole.  If every cell is a whole number of 64 bits the column
holds whole numbers; if every cell that is not missing is a numeral it holds doubles,
if every one is a truth value it holds truth values, and otherwise texts.  A cell is
missing if it is empty or one of the usual words for a missing value, quoted or not.

So one cell that is no number makes texts of all the others.
-/

namespace PassiveAggressive
namespace Csv

/-- The texts that stand for a missing cell. -/
def missingTexts : List String :=
  ["", "#N/A", "#N/A N/A", "#NA", "-1.#IND", "-1.#QNAN", "-NaN", "-nan", "1.#IND", "1.#QNAN",
    "<NA>", "N/A", "NA", "NULL", "NaN", "None", "n/a", "nan", "null"]

/-- Whether a cell counts as missing. -/
def isMissing (cell : String) : Bool := missingTexts.contains cell

/-- The texts that stand for truth values. -/
def truthTexts : List (String × Bool) :=
  [("True", true), ("TRUE", true), ("true", true), ("False", false), ("FALSE", false),
    ("false", false)]

/-- A column of cells none of which is missing, as whole numbers. -/
def wholeColumn? (cells : List String) : Option (List Int) := do
  let ns ← cells.mapM Number.cellInt?
  if Number.fitTogether ns then some ns else none

/-- Cells read by `read`, missing ones as null, if every other one can be read. -/
def readColumn? {α : Type} (read : String → Option α) (toValue : α → Value) (cells : List String) :
    Option (List Value) :=
  cells.mapM fun cell => if isMissing cell then some .null else (read cell).map toValue

/-- The column as texts. -/
def textColumn (cells : List String) : List Value :=
  cells.map fun cell => if isMissing cell then .null else .text cell

/-- The column with the kind that fits all of its cells. -/
def column (cells : List String) : List Value :=
  match wholeColumn? cells with
  | some ns => ns.map .int
  | none =>
    match readColumn? Number.cellFloat? .float cells with
    | some vs => vs
    | none => (readColumn? (fun cell => truthTexts.lookup cell) .bool cells).getD (textColumn cells)

end Csv
end PassiveAggressive

import PassiveAggressive.Csv.Column
import PassiveAggressive.Csv.Record
import PassiveAggressive.Example.Table

/-!
# Reading table files

The first record is the header.  The first record after it may have more cells than
the header: then its first cells, and those of every record after it, are labels of
the rows and belong to no column.  No later record may have more cells than that one;
a shorter one is filled up with empty cells.

Column names are made distinct: a repeated name gets a number, an empty one is named
by its position.
-/

namespace PassiveAggressive
namespace Csv

/-- The number of cells in a row: that of the header, or of the first record after it if that is
longer. -/
def width (header : Nat) : List Record → Nat
  | [] => header
  | r :: _ => max header r.cells.length

/-- The first record with more cells than `width`. -/
def tooLong? (width : Nat) (rows : List Record) : Option Malformed :=
  (rows.find? fun r => width < r.cells.length).map fun r =>
    .tooManyCells width r.line r.cells.length

/-- A record filled up with empty cells. -/
def fill (width : Nat) (cells : List String) : List String :=
  cells ++ List.replicate (width - cells.length) ""

/-- The name of the column at a position. -/
def positionName (i : Nat) : String := "Unnamed: " ++ Number.showNat i

/-- The name made of a repeated name and the least number, from `n` on, that makes it new. -/
def numbered (taken : List String) (name : String) (n : Nat) : Nat → String
  | 0 => name ++ "." ++ Number.showNat n
  | fuel + 1 =>
    let candidate := name ++ "." ++ Number.showNat n
    if taken.contains candidate then numbered taken name (n + 1) fuel else candidate

/-- The names from some position on, made distinct: `before` are the names given so far, and
`header` all names of the header. -/
def distinctFrom (header before : List String) : List String → List String
  | [] => []
  | name :: names =>
    let given :=
      if before.contains name then
        numbered (before ++ header) name 1 (before.length + header.length)
      else name
    given :: distinctFrom header (before ++ [given]) names

/-- The names of the columns, with empty names filled in. -/
def named (i : Nat) : List String → List String
  | [] => []
  | name :: names => (if name.isEmpty then positionName i else name) :: named (i + 1) names

/-- The names of the columns: the header's names made distinct. -/
def columnNames (header : List String) : List String :=
  let names := named 0 header
  distinctFrom names [] names

/-- The cells at a position of the rows. -/
def cellsAt (i : Nat) (rows : List (List String)) : List String := rows.map fun r => r.getD i ""

/-- The columns of a table: each name of the header with the cells at its position, counted from
`offset`.  The column with the name `textName` holds texts. -/
def columns (textName : String) (rows : List (List String)) :
    Nat → List (String × String) → List (String × List Value)
  | _, [] => []
  | offset, (given, name) :: names =>
    let cells := cellsAt offset rows
    let values := if given = textName || name = textName then textColumn cells else column cells
    (name, values) :: columns textName rows (offset + 1) names

/-- The table in the records of a file. -/
def ofRecords (textName : String) (header : Record) (rows : List Record) : Table :=
  let names := header.cells.zip (columnNames header.cells)
  let width := width header.cells.length rows
  ⟨columns textName (rows.map fun r => fill width r.cells) (width - header.cells.length) names⟩

/-- The characters of a file without the mark that may stand before them. -/
def withoutMark (cs : List Char) : List Char :=
  match cs with
  | c :: rest => if c.toNat = 0xFEFF then rest else cs
  | [] => []

/-- The table in a file; the column with the name `textName` holds texts whatever its cells look
like. -/
def read (textName : String) (text : String) : Except Malformed Table :=
  let (records, stopped) := records (withoutMark text.toList)
  match records with
  | [] => .error (stopped.getD .empty)
  | header :: rows =>
    match tooLong? (width header.cells.length rows) rows, stopped with
    | some e, _ => .error e
    | none, some e => .error e
    | none, none => .ok (ofRecords textName header rows)

end Csv
end PassiveAggressive

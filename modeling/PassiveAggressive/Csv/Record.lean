import PassiveAggressive.Number.Rendering
import PassiveAggressive.Text.Quoted

/-!
# Records of a table file

A table file is a list of records, one a line, and a record is a list of cells
separated by commas.  A cell in quotation marks may hold commas and line breaks, and
a mark inside it is written twice.  Lines end with a line feed, a carriage return or
both; a line of spaces and tabs alone is no record, but it counts as a line.

The file is read by one fold over its characters.  `Place` says where in a record the
fold stands, and that is all a character's meaning depends on.
-/

namespace PassiveAggressive
namespace Csv

/-- Why a file is no table. -/
inductive Malformed where
  /-- The file has no header. -/
  | empty
  /-- A record has more cells than the records before it. -/
  | tooManyCells (expected line found : Nat)
  /-- The file ends inside quotation marks. -/
  | unclosed (line : Nat)
  deriving DecidableEq, Repr

/-- The wording of the error. -/
def Malformed.message : Malformed → String
  | empty => "No columns to parse from file"
  | tooManyCells expected line found =>
    "Error tokenizing data. C error: Expected " ++ Number.showNat expected ++ " fields in line " ++
      Number.showNat line ++ ", saw " ++ Number.showNat found ++ "\n"
  | unclosed line =>
    "Error tokenizing data. C error: EOF inside string starting at row " ++ Number.showNat line

/-- A record: its cells, and the number of the line it ends in. -/
structure Record where
  cells : List String
  line : Nat
  deriving DecidableEq, Repr

/-- Where in a record a character stands. -/
inductive Place where
  /-- At the beginning of a line. -/
  | lineStart
  /-- After blanks at the beginning of a line. -/
  | margin
  | cellStart
  | cell
  | quoted
  /-- After a quotation mark in a quoted cell. -/
  | mark
  deriving DecidableEq, Repr

/-- What has been read so far. -/
structure Progress where
  place : Place
  /-- The characters of the current cell, in reverse. -/
  held : List Char
  /-- The cells of the current record, in reverse. -/
  cells : List String
  /-- The number of lines that have ended. -/
  lines : Nat
  /-- The records, in reverse. -/
  records : List Record
  /-- The last character was a carriage return that ended a line. -/
  returned : Bool

namespace Progress

/-- Nothing read yet. -/
def start : Progress := ⟨.lineStart, [], [], 0, [], false⟩

/-- The text of the current cell. -/
def cellText (p : Progress) : String := String.ofList p.held.reverse

/-- The current cell ends. -/
def endCell (p : Progress) : Progress :=
  { p with held := [], cells := p.cellText :: p.cells, place := .cellStart }

/-- The current record ends with the current line. -/
def endRecord (p : Progress) : Progress :=
  { p with
    place := .lineStart
    cells := []
    lines := p.lines + 1
    records := ⟨p.cells.reverse, p.lines + 1⟩ :: p.records }

/-- The current line ends and is no record. -/
def endBlank (p : Progress) : Progress :=
  { p with place := .lineStart, held := [], lines := p.lines + 1 }

/-- A character becomes part of the current cell. -/
def hold (p : Progress) (c : Char) (place : Place) : Progress :=
  { p with held := c :: p.held, place }

/-- A line ends here. -/
def endLine (p : Progress) : Progress :=
  match p.place with
  | .lineStart | .margin => p.endBlank
  | _ => p.endCell.endRecord

/-- A character in a cell that is not quoted. -/
def plain (p : Progress) (c : Char) : Progress := if c = ',' then p.endCell else p.hold c .cell

/-- A character at the beginning of a cell. -/
def opening (p : Progress) (c : Char) : Progress :=
  if c = Text.doubleMark then { p with place := .quoted } else p.plain c

/-- A character that ends no line. -/
def take (p : Progress) (c : Char) : Progress :=
  match p.place with
  | .lineStart => if c = ' ' || c = '\t' then p.hold c .margin else p.opening c
  | .margin => if c = ' ' || c = '\t' then p.hold c .margin else p.plain c
  | .cellStart => p.opening c
  | .cell => p.plain c
  | .quoted => if c = Text.doubleMark then { p with place := .mark } else p.hold c .quoted
  | .mark => if c = Text.doubleMark then p.hold c .quoted else p.plain c

/-- One character further. -/
def step (p : Progress) (c : Char) : Progress :=
  if p.place = .quoted then p.take c
  else if c = '\n' then
    if p.returned then { p with returned := false } else p.endLine
  else if c = '\r' then { p.endLine with returned := true }
  else { p.take c with returned := false }

/-- The end of the file: the records, and what is wrong with the last one. -/
def finish (p : Progress) : List Record × Option Malformed :=
  match p.place with
  | .lineStart | .margin => (p.records.reverse, none)
  | .quoted => (p.records.reverse, some (.unclosed p.lines))
  | _ => (p.endCell.endRecord.records.reverse, none)

end Progress

/-- The records of a file, and what stopped the reading before its end. -/
def records (cs : List Char) : List Record × Option Malformed :=
  (cs.foldl Progress.step .start).finish

end Csv
end PassiveAggressive

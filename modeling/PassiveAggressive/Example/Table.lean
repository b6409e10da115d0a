import PassiveAggressive.Number.Numeral
import PassiveAggressive.Number.Word64
import PassiveAggressive.Fault

/-!
# Tables

A table is a list of named columns, each a list of cells of any kind; a missing cell
is null.  `Table.numbers` reads a column as numbers, cell by cell: a numeral counts as
its value, a truth value as zero or one, and everything else as missing, which in a
column of numbers is the value that is no number.  Infinite numbers count as missing
too.

A column that holds nothing but whole numbers of 64 bits is read as whole numbers, among
which zero has no sign.
-/

namespace PassiveAggressive

/-- A table, column by column. -/
structure Table where
  columns : List (String × List Value)

namespace Table

/-- The cells of a column. -/
def column? (t : Table) (name : String) : Option (List Value) := t.columns.lookup name

/-- The number of rows. -/
def height (t : Table) : Nat :=
  match t.columns with
  | [] => 0
  | c :: _ => c.2.length

/-- A number that is neither infinite nor missing, else the missing number. -/
def finiteOrMissing (x : Float) : Float := if x.isFinite then x else Number.nan

/-- A cell as a number. -/
def number (cell : Value) : Except Fault Float :=
  match cell with
  | .int n =>
    let x := Number.ofInt n
    if x.isInf then .error .tooLarge else .ok x
  | .bool b => .ok (Number.ofInt (if b then 1 else 0))
  | .float x => .ok (finiteOrMissing x)
  | v =>
    match v.text?.bind Number.cellFloat? with
    | some x => .ok (finiteOrMissing x)
    | none => .ok Number.nan

/-- A cell as a whole number, if it is one. -/
def whole? : Value → Option Int
  | .int n => some n
  | .bool b => some (if b then 1 else 0)
  | v => v.text?.bind Number.cellInt?

/-- A column of numbers. -/
def numbers (cells : List Value) : Except Fault (List Float) :=
  match cells.mapM whole? with
  | some ns => if Number.fitTogether ns then .ok (ns.map Number.ofInt) else cells.mapM number
  | none => cells.mapM number

end Table
end PassiveAggressive

import PassiveAggressive.Configuration.Sections
import PassiveAggressive.Example.Table
import PassiveAggressive.Example.Token
import PassiveAggressive.Example.Validity
import PassiveAggressive.Log.Level
import PassiveAggressive.Value.Operand

/-!
# Examples from a table

Each row of a table gives one example: the tokens in one column are its features, the
number in another its target.  A row whose tokens or whose example is faulty is
invalid.  Depending on the layout an invalid row is dropped with a warning, or stops
the reading; any other fault stops it in either case.

The reading keeps what it has read when it stops (`Reading`), so that the valid rows
before the first invalid one are the same in both modes.
-/

namespace PassiveAggressive

/-- Why a row gives no example, or a table none at all. -/
inductive RowFault where
  | missingColumn (name : String)
  | token (e : TokenFault)
  | invalid (e : Invalid Value (Scalar Float))
  /-- Cells cannot be cut into tokens at an empty delimiter. -/
  | emptyDelimiter
  | fault (f : Fault)

namespace Invalid

/-- Whether the example is to blame, and not a value in it. -/
def isComplaint {ι α : Type} : Invalid ι α → Bool
  | fault _ => false
  | _ => true

/-- The wording of the complaint. -/
def message : Invalid Value (Scalar Float) → String
  | noFeatures => "Example has no features"
  | duplicate id => "Duplicate feature id in example: " ++ id.literal
  | valueNotFinite id x =>
    "Non-finite value for feature " ++ id.literal ++ ": " ++ (x.value?.getD .null).display
  | targetNotFinite x => "Non-finite target: " ++ (x.value?.getD .null).display
  | fault f => f.message

end Invalid

namespace RowFault

/-- Whether the row is to blame; such a row can be dropped. -/
def isComplaint : RowFault → Bool
  | missingColumn _ => true
  | token e => e.isComplaint
  | invalid e => e.isComplaint
  | emptyDelimiter | fault _ => false

/-- The wording of the fault. -/
def message : RowFault → String
  | missingColumn name => "Missing column: " ++ Text.quote name
  | token e => e.message
  | invalid e => e.message
  | emptyDelimiter => "empty separator"
  | fault f => f.message

end RowFault

/-- The features of an example and its target, as they are read from a table. -/
abbrev ReadExample := List (Feature Value Value) × Float

/-- What has been read from a table. -/
structure Reading where
  examples : List ReadExample
  log : List Log.Line
  /-- What stopped the reading, if anything did. -/
  stopped : Option RowFault

namespace Reading

/-- The features as operands of the learner. -/
def operands (x : List (Feature Value Value)) : Features Value (Scalar Float) :=
  x.map fun f => ⟨f.id, f.value.scalar⟩

/-- The tokens of a text cell: the pieces between delimiters that are not blank. -/
def cutTokens (delimiter : List Char) (cell : List Char) : Except RowFault (List Value) :=
  match delimiter with
  | [] => .error .emptyDelimiter
  | d :: ds =>
    .ok (((Text.splitOn d ds cell).filter fun piece => !(Text.stripChars piece).isEmpty).map
      fun piece => .text (String.ofList piece))

/-- The tokens in a cell.  A missing cell, like anything that holds no tokens, has none. -/
def tokens (delimiter : String) (cell : Value) : Except RowFault (List Value) :=
  match cell with
  | .list items | .tuple items | .array items => .ok items
  | .entry id value => .ok [id, value]
  | v =>
    match v.text? with
    | some s => cutTokens delimiter.toList s.toList
    | none => .ok []

/-- The features in a cell. -/
def features (intIds : Bool) (delimiter : String) (cell : Value) :
    Except RowFault (List (Feature Value Value)) := do
  let tokens ← tokens delimiter cell
  (Token.readAll intIds tokens).mapError .token

/-- The example in a row. -/
def row (layout : TableLayout) (cell : Value) (target : Float) : Except RowFault ReadExample := do
  let x ← features layout.intIds layout.delimiter cell
  (Example.check (operands x) (.real target)).mapError .invalid
  .ok (x, target)

/-- The warning about a dropped row. -/
def dropLine (index : Nat) (e : RowFault) : Log.Line :=
  Log.warning ("[Dataset] drop row=" ++ Number.showNat index ++ ": " ++ e.message)

/-- The warning about all dropped rows, if there are any. -/
def totalLine (dropped : Nat) : List Log.Line :=
  if dropped = 0 then []
  else [Log.warning ("[Dataset] dropped " ++ Number.showNat dropped ++ " invalid rows")]

/-- The rows from `index` on, after `dropped` rows have been dropped. -/
def rows (layout : TableLayout) (index dropped : Nat) : List (Value × Float) → Reading
  | [] => ⟨[], totalLine dropped, none⟩
  | (cell, target) :: rest =>
    match row layout cell target with
    | .ok x =>
      let r := rows layout (index + 1) dropped rest
      { r with examples := x :: r.examples }
    | .error e =>
      if layout.dropInvalid && e.isComplaint then
        let r := rows layout (index + 1) (dropped + 1) rest
        { r with log := dropLine index e :: r.log }
      else ⟨[], [], some e⟩

/-- A reading that stops before the first row. -/
def failed (e : RowFault) : Reading := ⟨[], [], some e⟩

/-- The examples in a table. -/
def ofTable (layout : TableLayout) (t : Table) : Reading :=
  match t.column? layout.featuresColumn, t.column? layout.targetColumn with
  | none, _ => failed (.missingColumn layout.featuresColumn)
  | _, none => failed (.missingColumn layout.targetColumn)
  | some cells, some targets =>
    match Table.numbers targets with
    | .error f => failed (.fault f)
    | .ok targets => rows layout 0 0 (cells.zip targets)

end Reading
end PassiveAggressive

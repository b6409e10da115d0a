import PassiveAggressive.Csv.Column
import PassiveAggressive.Number.Binary64
import PassiveAggressive.Value.Literal

/-!
# Columns of ids and weights

A list of ids with their weights becomes a table of two columns.  Inside a column
whole numbers stand beside doubles as doubles, and next to a missing value they do the
same; values of any other mixture stay what they are.
-/

namespace PassiveAggressive
namespace Weights

/-- What a column holds. -/
inductive Content where
  /-- Whole numbers of 64 bits with a sign. -/
  | signed
  /-- Whole numbers of 64 bits without a sign. -/
  | unsigned
  | real
  | truth
  /-- Anything. -/
  | mixed
  deriving DecidableEq, Repr

/-- The whole number in a value. -/
def int? : Value → Option Int
  | .int n => some n
  | _ => none

/-- The value may stand in a column of doubles. -/
def isNumberOrNull : Value → Bool
  | .int _ | .float _ | .null => true
  | _ => false

/-- A truth value. -/
def isTruth : Value → Bool
  | .bool _ => true
  | _ => false

/-- Null. -/
def isNull : Value → Bool
  | .null => true
  | _ => false

/-- What a column of the given values holds. -/
def content (vs : List Value) : Content :=
  match vs.mapM int? with
  | some ns => if ns.all Number.fitsSigned then .signed
    else if ns.all Number.fitsUnsigned then .unsigned else .mixed
  | none =>
    if vs.all isTruth then .truth
    else if vs.all isNumberOrNull && !vs.all isNull &&
        Number.fitTogether ((vs.takeWhile fun v => !isNull v).filterMap int?) then .real
    else .mixed

/-- What the columns of two tables hold when they are put below each other. -/
def Content.join (a b : Content) : Content :=
  if a = b then a
  else
    match a, b with
    | .mixed, _ | _, .mixed | .truth, _ | _, .truth => .mixed
    | _, _ => .real

/-- A value as it stands in a column. -/
def settle (c : Content) (v : Value) : Value :=
  match c, v with
  | .real, .int n => .float (Number.ofInt n)
  | .real, .null => .float Number.nan
  | _, v => v

/-- A column. -/
def column (vs : List Value) : List Value := vs.map (settle (content vs))

end Weights
end PassiveAggressive

import PassiveAggressive.Configuration.Finding
import PassiveAggressive.Number.Numeral

/-!
# Entries of a configuration

How an entry of a configuration is read.  The readers are lenient where a value of
another kind plainly means the one wanted: a whole number, a truth value or a numeral
in quotes is a number, and several words stand for a truth value.  A text, on the
other hand, has to be one.
-/

namespace PassiveAggressive
namespace Entry

/-- A text. -/
def text (v : Value) : Except Complaint String :=
  match v.text? with
  | some s => .ok s
  | none => .error .notText

/-- A double. -/
def number : Value → Except Complaint Float
  | .float x => .ok x
  | .bool b => .ok (Number.ofInt (if b then 1 else 0))
  | .int n =>
    let x := Number.ofInt n
    if x.isInf then .error .notNumber else .ok x
  | v =>
    match v.text? with
    | none => .error .notNumber
    | some s =>
      match Number.settingFloat? s with
      | some x => .ok x
      | none => .error .unreadableNumber

/-- A double, or null. -/
def number? : Value → Except Complaint (Option Float)
  | .null => .ok none
  | v => (number v).map some

/-- The words that stand for a truth value, in lower case. -/
def truthWords : List (String × Bool) :=
  [("0", false), ("off", false), ("f", false), ("false", false), ("n", false), ("no", false),
    ("1", true), ("on", true), ("t", true), ("true", true), ("y", true), ("yes", true)]

/-- The truth value a whole number stands for. -/
def wholeTruth (n : Int) : Except Complaint Bool :=
  if n = 0 then .ok false else if n = 1 then .ok true else .error .unreadableTruth

/-- A truth value. -/
def truth : Value → Except Complaint Bool
  | .bool b => .ok b
  | .int n => wholeTruth n
  | .float x =>
    match Number.toInt? x with
    | some n => wholeTruth n
    | none => .error .notTruth
  | v =>
    match v.text? with
    | none => .error .notTruth
    | some s =>
      match truthWords.lookup (Text.lower s) with
      | some b => .ok b
      | none => .error .unreadableTruth

end Entry
end PassiveAggressive

import PassiveAggressive.Value.Literal

/-!
# Values as JSON

A value is written as JSON where a log line lists named arguments.  Sequences are
arrays and mappings objects; what JSON has no form for is written as a text of what is
displayed.  The names of infinite values and of the value that is no number are those
that readers of JSON commonly take.
-/

namespace PassiveAggressive
namespace Value

/-- A double. -/
def jsonFloat (x : Float) : String :=
  if x.isNaN then "NaN"
  else if x.isInf then (if x < 0 then "-Infinity" else "Infinity")
  else Number.showFloat x

/-- The text of a name. -/
def jsonName : Value → String
  | null => "null"
  | bool b => if b then "true" else "false"
  | float x => jsonFloat x
  | v => (v.text?).getD v.display

mutual

/-- The value as JSON, in one line. -/
def json : Value → String
  | null => "null"
  | bool b => if b then "true" else "false"
  | int n => Number.showInt n
  | float x => jsonFloat x
  | text s => Text.jsonQuote s
  | variant v => Text.jsonQuote v.name
  | list xs | tuple xs => "[" ++ Text.joinWith ", " (jsons xs) ++ "]"
  | entry id v => "[" ++ Text.joinWith ", " [json id, json v] ++ "]"
  | dict es => "\x7b" ++ Text.joinWith ", " (jsonEntries es) ++ "\x7d"
  | v => Text.jsonQuote v.display

/-- The items of a sequence. -/
def jsons : List Value → List String
  | [] => []
  | x :: xs => json x :: jsons xs

/-- The entries of a mapping. -/
def jsonEntries : List (Value × Value) → List String
  | [] => []
  | (k, v) :: es => (Text.jsonQuote k.jsonName ++ ": " ++ json v) :: jsonEntries es

end
end Value
end PassiveAggressive

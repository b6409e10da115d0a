import PassiveAggressive.Fault

/-!
# Values that hold others

A sequence holds its items, a text its characters, and a mapping its keys.
-/

namespace PassiveAggressive
namespace Value

/-- The values that a value holds, in order. -/
def items : Value → Except Fault (List Value)
  | list xs | tuple xs | array xs | set xs => .ok xs
  | entry id value => .ok [id, value]
  | dict es => .ok (es.map Prod.fst)
  | v =>
    match v.text? with
    | some s => .ok (s.toList.map fun c => text (String.singleton c))
    | none => .error (.notIterable v.kind)

end Value
end PassiveAggressive

import PassiveAggressive.Value.Key

/-!
# Entries of mappings

A mapping keeps its keys in the order in which they first appear, and each key its
last value.
-/

namespace PassiveAggressive
namespace Value

/-- The entries with a value under a key; a key that is there already stays as it is. -/
def fileUnder (key value : Value) : List (Value × Value) → List (Value × Value)
  | [] => [(key, value)]
  | e :: es => if Key.same e.1 key then (e.1, value) :: es else e :: fileUnder key value es

end Value
end PassiveAggressive

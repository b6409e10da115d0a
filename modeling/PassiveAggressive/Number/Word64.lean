import PassiveAggressive.Number.Power

/-!
# Whole numbers of 64 bits

A column of whole numbers is kept in 64 bits a number, either with a sign or without.
-/

namespace PassiveAggressive
namespace Number

/-- A whole number fits in 64 bits with a sign. -/
def fitsSigned (n : Int) : Bool := -(twoTo 63) ≤ n && n < twoTo 63

/-- A whole number fits in 64 bits without a sign. -/
def fitsUnsigned (n : Int) : Bool := 0 ≤ n && n < twoTo 64

/-- The whole numbers fit together in one column of 64 bits. -/
def fitTogether (ns : List Int) : Bool := ns.all fitsSigned || ns.all fitsUnsigned

end Number
end PassiveAggressive

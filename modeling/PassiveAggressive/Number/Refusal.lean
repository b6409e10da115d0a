import PassiveAggressive.Number.Numeral
import PassiveAggressive.Number.Rendering
import PassiveAggressive.Text.Quoted

/-!
# Refused numerals

The wording of what the readers of numerals refuse.
-/

namespace PassiveAggressive
namespace Number

/-- The wording of the fault; the text is cut where its quotation gets too long. -/
def IntegerFault.message : IntegerFault → String
  | notANumeral s =>
    "invalid literal for int() with base 10: " ++ String.ofList ((Text.quote s).toList.take 200)
  | tooManyDigits n =>
    "Exceeds the limit (" ++ showNat maxDigits ++
      " digits) for integer string conversion: value has " ++ showNat n ++
      " digits; use sys.set_int_max_str_digits() to increase the limit"

/-- The wording where a text is no numeral of a double. -/
def notAFloat (s : String) : String := "could not convert string to float: " ++ Text.quote s

end Number
end PassiveAggressive

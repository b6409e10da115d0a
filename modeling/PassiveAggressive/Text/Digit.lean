import PassiveAggressive.Text.Ranges

/-!
# Digits

Every script brings its own ten digits, and a numeral may be written in any of
them.  The table below lists the zero of each run of ten consecutive decimal
digits; `decimalValue?` reads one digit, and `toAsciiDigit` replaces it by the
ASCII digit of the same value.

## Why there are two properties

Superscripts, subscripts and encircled figures carry a digit value too, but they
do not stand for a place of a numeral.  A text of digits in this wider sense
(`isDigitLike`) is therefore not always a numeral: `²` is digit-like and no decimal
digit.  Both properties are needed, because a name made of digit-like characters is
*offered* to the reader of whole numbers, which may still refuse it.
-/

namespace PassiveAggressive
namespace Text

/-- The zeros of the runs of ten decimal digits, in increasing order. -/
def decimalZeros : List Nat :=
  [48, 1632, 1776, 1984, 2406, 2534, 2662, 2790, 2918, 3046, 3174, 3302, 3430, 3558, 3664,
    3792, 3872, 4160, 4240, 6112, 6160, 6470, 6608, 6784, 6800, 6992, 7088, 7232, 7248, 42528,
    43216, 43264, 43472, 43504, 43600, 44016, 65296, 66720, 68912, 69734, 69872, 69942, 70096,
    70384, 70736, 70864, 71248, 71360, 71472, 71904, 72016, 72784, 73040, 73120, 92768, 92864,
    93008, 120782, 120792, 120802, 120812, 120822, 123200, 123632, 125264, 130032]

/-- The characters, decimal digits apart, that carry a digit value: ranges of code points in
increasing order. -/
def otherDigitRanges : List (Nat × Nat) :=
  [(178, 179), (185, 185), (4969, 4977), (6618, 6618), (8304, 8304), (8308, 8313),
    (8320, 8329), (9312, 9320), (9332, 9340), (9352, 9360), (9450, 9450), (9461, 9469),
    (9471, 9471), (10102, 10110), (10112, 10120), (10122, 10130), (68160, 68163),
    (69216, 69224), (69714, 69722), (127232, 127242)]

/-- The value of a decimal digit of any script. -/
def decimalValue? (c : Char) : Option Nat :=
  let code := c.toNat
  if code < 128 then
    if 48 ≤ code && code ≤ 57 then some (code - 48) else none
  else
    (decimalZeros.find? fun start => start ≤ code && code < start + 10).map (code - ·)

/-- A decimal digit of any script. -/
def isDecimal (c : Char) : Bool := (decimalValue? c).isSome

/-- A character with a digit value: a decimal digit, a superscript, an encircled figure. -/
def isDigitLike (c : Char) : Bool :=
  isDecimal c || inRanges otherDigitRanges c.toNat

/-- The text is a non-empty run of digit-like characters. -/
def isAllDigits (s : String) : Bool :=
  !s.isEmpty && s.toList.all isDigitLike

/-- The ASCII digit with the given value, for values below ten. -/
def asciiDigit (d : Nat) : Char := Char.ofNat (48 + d)

/-- A decimal digit becomes the ASCII digit of the same value; other characters stay. -/
def toAsciiDigit (c : Char) : Char :=
  match decimalValue? c with
  | some d => asciiDigit d
  | none => c

/-- The positional value of a run of digit values, most significant first. -/
def valueOfDigits (ds : List Nat) : Nat := ds.foldl (fun acc d => acc * 10 + d) 0

@[simp] theorem valueOfDigits_nil : valueOfDigits [] = 0 := rfl

/-- Appending one digit multiplies by ten and adds it. -/
theorem valueOfDigits_concat (ds : List Nat) (d : Nat) :
    valueOfDigits (ds ++ [d]) = valueOfDigits ds * 10 + d := by
  simp [valueOfDigits]

end Text
end PassiveAggressive

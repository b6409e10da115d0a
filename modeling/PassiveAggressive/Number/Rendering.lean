import PassiveAggressive.Number.Shortest
import PassiveAggressive.Text.Split

/-!
# Numbers as text

Messages, tables and answers show a double in one of three ways:

* `show`: the fewest digits that read back, positionally between `0.0001` and
  `10 ^ 16` and with an exponent outside, always with a point or an exponent, so
  that a double is never mistaken for a whole number;
* `fixed`: a given number of decimal places, as elapsed times and predictions are
  printed;
* `general`: a given number of significant digits without trailing zeros, as a
  variance tracker describes itself.
-/

namespace PassiveAggressive
namespace Number

/-- The digits of a whole number. -/
def natChars (n : Nat) : List Char :=
  if n = 0 then [Text.asciiDigit 0] else (digitsOf n).map Text.asciiDigit

/-- A whole number in decimal digits. -/
def showNat (n : Nat) : String := String.ofList (natChars n)

/-- An integer in decimal digits, with a sign if it is negative. -/
def showInt (n : Int) : String := if n < 0 then "-" ++ showNat n.natAbs else showNat n.natAbs

/-- The sign of a negative number. -/
def signChars (negative : Bool) : List Char := if negative then ['-'] else []

/-- Where positional notation ends and whether a whole value keeps a decimal. -/
structure Layout where
  /-- The least decimal exponent that is written positionally. -/
  least : Int
  /-- The first decimal exponent that is not. -/
  bound : Int
  /-- Whether a value without decimals is written with `.0` when it is positional. -/
  keepPoint : Bool

/-- A double reads back from its text and is recognisable as a double. -/
def Layout.exact : Layout := ⟨-4, 16, true⟩

/-- A value rounded to `count` significant digits, which may look like a whole number. -/
def Layout.rounded (count : Nat) : Layout := ⟨-4, count, false⟩

/-- The text of an exponent: its sign and at least two digits. -/
def exponentChars (e : Int) : List Char :=
  'e' :: (if e < 0 then '-' else '+') :: Text.padLeft 2 '0' (natChars e.natAbs)

/-- A positive decimal number in the given layout. -/
def Layout.write (layout : Layout) (d : Decimal) : List Char :=
  let exponent := d.point - 1
  let digits := d.digits.map Text.asciiDigit
  if layout.least ≤ exponent ∧ exponent < layout.bound then
    if d.point ≤ 0 then '0' :: '.' :: List.replicate (-d.point).toNat '0' ++ digits
    else
      let whole := d.point.toNat
      let rest := digits.drop whole
      let front := digits.take whole ++ List.replicate (whole - digits.length) '0'
      if rest.isEmpty then (if layout.keepPoint then front ++ ['.', '0'] else front)
      else front ++ '.' :: rest
  else
    let mantissa :=
      match digits with
      | c :: c' :: r => c :: '.' :: c' :: r
      | ds => ds
    mantissa ++ exponentChars exponent

/-- The name of an infinite value. -/
def infinityName (negative : Bool) : String := if negative then "-inf" else "inf"

/-- The name of the value that is no number, which has no sign. -/
def nanName : String := "nan"

/-- The double with the fewest digits that read back. -/
def showFloat (x : Float) : String :=
  match Reading.ofFloat x with
  | .nan => nanName
  | .infinite negative => infinityName negative
  | .finite negative significand exponent =>
    String.ofList (signChars negative ++
      if significand = 0 then ['0', '.', '0']
      else Layout.exact.write (shortest significand exponent))

/-- A count of units of `10 ^ -places`, written with that many decimal places. -/
def placesChars (places : Nat) (units : Nat) : List Char :=
  let digits := Text.padLeft (places + 1) '0' (natChars units)
  let whole := digits.length - places
  if places = 0 then digits else digits.take whole ++ '.' :: digits.drop whole

/-- The double with `places` decimal places, exactly rounded. -/
def showFixed (places : Nat) (x : Float) : String :=
  match Reading.ofFloat x with
  | .nan => nanName
  | .infinite negative => infinityName negative
  | .finite negative significand exponent =>
    String.ofList (signChars negative ++ placesChars places (inPlaces places significand exponent))

/-- A value rounded to `count` significant digits, which is recognisable as a double. -/
def Layout.roundedExact (count : Nat) : Layout := ⟨-4, count - 1, true⟩

/-- The digits of a number rounded to `count` significant digits, with zeros up to that count where
`padded`. -/
def roundedDigits (padded : Bool) (count significand : Nat) (exponent : Int) : Decimal :=
  let d : Decimal := if significand = 0 then ⟨[0], 1⟩ else significant count significand exponent
  if padded then { d with digits := d.digits ++ List.replicate (count - d.digits.length) 0 } else d

/-- The double rounded to `count` significant digits in the given layout. -/
def showSignificant (layout : Layout) (padded : Bool) (count : Nat) (x : Float) : String :=
  match Reading.ofFloat x with
  | .nan => nanName
  | .infinite negative => infinityName negative
  | .finite negative significand exponent =>
    String.ofList (signChars negative ++
      layout.write (roundedDigits padded count significand exponent))

/-- The double rounded to `count` significant digits, trailing zeros dropped. -/
def showGeneral (count : Nat) (x : Float) : String :=
  showSignificant (.rounded count) false count x

/-- The double with one digit before the point and `places` after it, and an exponent. -/
def showScientific (places : Nat) (x : Float) : String :=
  match Reading.ofFloat x with
  | .nan => nanName
  | .infinite negative => infinityName negative
  | .finite negative significand exponent =>
    let d : Decimal :=
      if significand = 0 then ⟨[0], 1⟩ else significant (places + 1) significand exponent
    let digits := d.digits.map Text.asciiDigit ++
      List.replicate (places + 1 - d.digits.length) '0'
    let mantissa := if places = 0 then digits else digits.take 1 ++ '.' :: digits.drop 1
    String.ofList (signChars negative ++ mantissa ++ exponentChars (d.point - 1))

end Number
end PassiveAggressive

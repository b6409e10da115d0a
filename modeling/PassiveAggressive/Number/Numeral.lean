import PassiveAggressive.Number.Binary64
import PassiveAggressive.Text.Blank
import PassiveAggressive.Text.Digit
import PassiveAggressive.Text.Split

/-!
# Reading numerals

A decimal numeral is a sign, digits with at most one point among them, and an
exponent; of digits before and after the point at least one is needed.  The words
for infinity and for the absence of a number are numerals as well.

The places that read numerals differ in what they admit around this core, so the
core (`decimal?`) works on plain ASCII characters and each place has a reader of
its own:

* `float?` reads what a person types: blanks around it, digits of any script, single
  underscores between digits;
* `cellFloat?` reads a table cell: ASCII blanks around it, ASCII digits only;
* `settingFloat?` reads a configured number: blanks around it, ASCII digits, single
  underscores inside.
-/

namespace PassiveAggressive
namespace Number

/-- The leading ASCII digits of a text, as values, and the rest. -/
def takeDigits : List Char → List Nat × List Char
  | [] => ([], [])
  | c :: cs =>
    if 48 ≤ c.toNat && c.toNat ≤ 57 then
      let (ds, rest) := takeDigits cs
      ((c.toNat - 48) :: ds, rest)
    else ([], c :: cs)

/-- Nothing is lost: a text is the digits taken from it and the rest. -/
theorem length_takeDigits (cs : List Char) :
    (takeDigits cs).1.length + (takeDigits cs).2.length = cs.length := by
  induction cs with
  | nil => rfl
  | cons c cs ih =>
    simp only [takeDigits]
    split
    · simp only [List.length_cons]; omega
    · simp

/-- The sign at the front of a text, if there is one, and the rest. -/
def takeSign : List Char → Bool × List Char
  | '-' :: cs => (true, cs)
  | '+' :: cs => (false, cs)
  | cs => (false, cs)

/-- An exponent at the end of a numeral: the letter, a sign, at least one digit.  The end of the
text is the exponent zero. -/
def exponent? : List Char → Option Int
  | [] => some 0
  | c :: cs =>
    if c = 'e' || c = 'E' then
      let (negative, cs) := takeSign cs
      match takeDigits cs with
      | ([], _) => none
      | (ds, []) =>
        let n : Int := Text.valueOfDigits ds
        some (if negative then -n else n)
      | _ => none
    else none

/-- The words for the values that digits cannot write. -/
def word? (negative : Bool) (cs : List Char) : Option Float :=
  match String.ofList (cs.map Char.toLower) with
  | "inf" => some (infinity negative)
  | "infinity" => some (infinity negative)
  | "nan" => some nan
  | _ => none

/-- An unsigned numeral made of digits, a point and an exponent. -/
def unsigned? (negative : Bool) (cs : List Char) : Option Float :=
  let (whole, rest) := takeDigits cs
  let (decimals, rest) :=
    match rest with
    | '.' :: r => takeDigits r
    | r => ([], r)
  if whole.isEmpty && decimals.isEmpty then none
  else (exponent? rest).map fun e =>
    ofDecimal negative (Text.valueOfDigits (whole ++ decimals)) (e - decimals.length)

/-- The value of a numeral in ASCII characters with nothing around it. -/
def decimal? (cs : List Char) : Option Float :=
  let (negative, cs) := takeSign cs
  (unsigned? negative cs).orElse fun _ => word? negative cs

/-- An ASCII digit. -/
def isAsciiDigit (c : Char) : Bool := 48 ≤ c.toNat && c.toNat ≤ 57

/-- The text without its underscores, provided that each of them stands between two digits.
`before` says whether the character before is a digit. -/
def withoutUnderscores? (before : Bool) : List Char → Option (List Char)
  | [] => some []
  | '_' :: cs =>
    match cs with
    | c :: _ => if before && isAsciiDigit c then withoutUnderscores? false cs else none
    | [] => none
  | c :: cs => (withoutUnderscores? (isAsciiDigit c) cs).map (c :: ·)

/-- A blank that may stand around a numeral: all but the information separators. -/
def isNumeralBlank (c : Char) : Bool := Text.isBlank c && !(28 ≤ c.toNat && c.toNat ≤ 31)

/-- The numeral a person typed. -/
def float? (s : String) : Option Float :=
  let cs := Text.trimBy isNumeralBlank s.toList
  (withoutUnderscores? false (cs.map Text.toAsciiDigit)).bind decimal?

/-- A blank character that may stand around a table cell's numeral. -/
def isCellBlank (c : Char) : Bool := c.toNat = 32 || (9 ≤ c.toNat && c.toNat ≤ 13)

/-- The numeral in a table cell.  Blanks may stand around digits, not around a word. -/
def cellFloat? (s : String) : Option Float :=
  let (negative, cs) := takeSign (Text.trimBy isCellBlank s.toList)
  match unsigned? negative cs with
  | some x => some x
  | none =>
    let (negative, cs) := takeSign s.toList
    match word? negative cs with
    | some x => if x.isNaN then none else some x
    | none => none

/-- The whole number in a table cell: a sign and digits, with blanks around them. -/
def cellInt? (s : String) : Option Int :=
  let (negative, cs) := takeSign (Text.trimBy isCellBlank s.toList)
  match takeDigits cs with
  | ([], _) => none
  | (ds, []) =>
    let n : Int := Text.valueOfDigits ds
    some (if negative then -n else n)
  | _ => none

/-- Two underscores follow each other somewhere in the text. -/
def hasDoubleUnderscore : List Char → Bool
  | '_' :: '_' :: _ => true
  | _ :: cs => hasDoubleUnderscore cs
  | [] => false

/-- The numeral in a configuration value.  Blanks may stand around it, or single underscores between
its characters, but not both. -/
def settingFloat? (s : String) : Option Float :=
  let cs := s.toList
  (decimal? (Text.trimBy isNumeralBlank cs)).orElse fun _ =>
    if cs.head? = some '_' || cs.getLast? = some '_' || hasDoubleUnderscore cs then none
    else decimal? (cs.filter (· ≠ '_'))

/-! ## Whole numbers -/

/-- Why a text is no whole number. -/
inductive IntegerFault where
  /-- The text, quoted in the message, is not a numeral. -/
  | notANumeral (text : String)
  /-- The numeral is longer than numerals are read. -/
  | tooManyDigits (count : Nat)
  deriving DecidableEq, Repr

/-- The length of the longest numeral that is read as a whole number. -/
def maxDigits : Nat := 4300

/-- The value of a non-negative whole number in digits of any script, with blanks around it and
single underscores between digits. -/
def natural (s : String) : Except IntegerFault Nat :=
  let cs := (Text.trimBy isNumeralBlank s.toList).map Text.toAsciiDigit
  let lead := (takeDigits (cs.filter (· ≠ '_'))).1
  if maxDigits < lead.length then .error (.tooManyDigits lead.length)
  else
    match withoutUnderscores? false cs with
    | none => .error (.notANumeral s)
    | some cs =>
      match takeDigits cs with
      | ([], _) => .error (.notANumeral s)
      | (ds, []) => .ok (Text.valueOfDigits ds)
      | _ => .error (.notANumeral s)

end Number
end PassiveAggressive

import PassiveAggressive.Text.Digit
import PassiveAggressive.Text.Printable

/-!
# Quoted texts

A message that names a text quotes it, so that a blank at its end or a line break
inside it can be seen.  `quote` puts the text between single quotes, or between
double quotes when that spares an escape, and writes by its code point every
character that has no glyph of its own.

`jsonQuote` is the quoting of JSON, with characters beyond ASCII kept as they are.
-/

namespace PassiveAggressive
namespace Text

/-- The lower-case hexadecimal digit with the given value, for values below sixteen. -/
def hexDigit (d : Nat) : Char :=
  if d < 10 then asciiDigit d else Char.ofNat (87 + d)

/-- The lowest `width` hexadecimal places of a number. -/
def hexPlaces : Nat → Nat → List Char
  | 0, _ => []
  | width + 1, n => hexPlaces width (n / 16) ++ [hexDigit (n % 16)]

@[simp] theorem length_hexPlaces (width n : Nat) : (hexPlaces width n).length = width := by
  induction width generalizing n with
  | zero => rfl
  | succ w ih => simp [hexPlaces, ih]

/-- One character as a quoted text shows it, when `mark` is the quotation mark around it. -/
def quoteChar (mark c : Char) : List Char :=
  if c = mark || c = '\\' then ['\\', c]
  else if c = '\n' then ['\\', 'n']
  else if c = '\r' then ['\\', 'r']
  else if c = '\t' then ['\\', 't']
  else if isPrintable c then [c]
  else if c.toNat < 256 then '\\' :: 'x' :: hexPlaces 2 c.toNat
  else if c.toNat < 65536 then '\\' :: 'u' :: hexPlaces 4 c.toNat
  else '\\' :: 'U' :: hexPlaces 8 c.toNat

/-- The single quotation mark. -/
def singleMark : Char := Char.ofNat 39

/-- The double quotation mark. -/
def doubleMark : Char := Char.ofNat 34

/-- The quotation mark for a text: the double one only if the text holds a single one and no
double one. -/
def markFor (cs : List Char) : Char :=
  if cs.contains singleMark && !cs.contains doubleMark then doubleMark else singleMark

/-- The text between quotation marks, with escapes where a character cannot show itself. -/
def quote (s : String) : String :=
  let cs := s.toList
  let mark := markFor cs
  String.ofList (mark :: cs.flatMap (quoteChar mark) ++ [mark])

/-- One character inside a JSON string. -/
def jsonChar (c : Char) : List Char :=
  if c = doubleMark || c = '\\' then ['\\', c]
  else if c = '\n' then ['\\', 'n']
  else if c = '\r' then ['\\', 'r']
  else if c = '\t' then ['\\', 't']
  else if c.toNat = 8 then ['\\', 'b']
  else if c.toNat = 12 then ['\\', 'f']
  else if c.toNat < 32 then '\\' :: 'u' :: hexPlaces 4 c.toNat
  else [c]

/-- The text as a JSON string. -/
def jsonQuote (s : String) : String :=
  String.ofList (doubleMark :: s.toList.flatMap jsonChar ++ [doubleMark])

end Text
end PassiveAggressive

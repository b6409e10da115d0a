import PassiveAggressive.Fault
import PassiveAggressive.Text.Quoted

/-!
# What can be wrong with a template

A message may be a template: text with fields in braces, which are filled from
arguments.  A template can be written wrongly (`Flaw`), and a well-written one can ask
for an argument that is not there (`TemplateFault`).
-/

namespace PassiveAggressive
namespace Template

/-- What is wrong with the writing of a template. -/
inductive Flaw where
  | closedOnly
  | openedOnly
  | openedInName
  | noConversion
  | noColon
  | unmatched
  | notClosed
  | tooDeep
  | unknownConversion (c : Char)
  | toAutomatic
  | toManual
  | tooManyDigits
  | afterBracket
  | emptyAttribute
  | openBracket
  /-- Arguments are given by name alone. -/
  | positional
  /-- A layout has both separators of thousands. -/
  | bothSeparators
  | separatorWith (separator code : Char)
  | missingPrecision
  | badLayout (layout : String) (kind : Kind)
  | unknownCode (code : Char) (kind : Kind)
  /-- A text cannot be laid out like a number; the word says in which respect. -/
  | notForTexts (what : String)
  | notForWholes (what : String)
  /-- A whole number cannot be shown both as a character and like a number. -/
  | notForCharacters (what : String)
  deriving DecidableEq, Repr

/-- A character in a message: itself, or its code point if it is not a plain one. -/
def shownCode (c : Char) : String :=
  if 32 < c.toNat && c.toNat < 127 then String.singleton c
  else "\\x" ++ String.ofList (Text.hexPlaces (Nat.log2 c.toNat / 4 + 1) c.toNat)

/-- The wording of a flaw. -/
def Flaw.message : Flaw → String
  | closedOnly => "Single '\x7d' encountered in format string"
  | openedOnly => "Single '\x7b' encountered in format string"
  | openedInName => "unexpected '\x7b' in field name"
  | noConversion => "end of string while looking for conversion specifier"
  | noColon => "expected ':' after conversion specifier"
  | unmatched => "unmatched '\x7b' in format spec"
  | notClosed => "expected '\x7d' before end of string"
  | tooDeep => "Max string recursion exceeded"
  | unknownConversion c => "Unknown conversion specifier " ++ shownCode c
  | toAutomatic =>
    "cannot switch from manual field specification to automatic field numbering"
  | toManual => "cannot switch from automatic field numbering to manual field specification"
  | tooManyDigits => "Too many decimal digits in format string"
  | afterBracket => "Only '.' or '[' may follow ']' in format field specifier"
  | emptyAttribute => "Empty attribute in format string"
  | openBracket => "Missing ']' in format string"
  | positional => "Format string contains positional fields"
  | bothSeparators => "Cannot specify both ',' and '_'."
  | separatorWith s c =>
    "Cannot specify '" ++ String.singleton s ++ "' with '" ++ shownCode c ++ "'."
  | missingPrecision => "Format specifier missing precision"
  | badLayout l k =>
    "Invalid format specifier '" ++ l ++ "' for object of type '" ++ k.name ++ "'"
  | unknownCode c k =>
    "Unknown format code '" ++ shownCode c ++ "' for object of type '" ++ k.name ++ "'"
  | notForTexts w => w ++ " not allowed in string format specifier"
  | notForWholes w => w ++ " not allowed in integer format specifier"
  | notForCharacters w => w ++ " not allowed with integer format specifier 'c'"

end Template

/-- Why a template is not filled. -/
inductive TemplateFault where
  | flaw (f : Template.Flaw)
  | missingArgument (index : Nat)
  | missingName (name : String)
  /-- A sequence has no item at the index asked for. -/
  | outOfRange (kind : Kind)
  | missingKey (key : String)
  | noAttribute (kind : Kind) (name : String)
  /-- A sequence has items under indices only. -/
  | notIndex (kind : Kind)
  | noItems (kind : Kind)
  /-- The value cannot be laid out. -/
  | noLayout (kind : Kind)
  /-- The whole number is no character; it may even be too large for a machine word. -/
  | noCharacter (fits : Bool)
  | fault (f : Fault)
  deriving DecidableEq, Repr

/-- The wording of the fault. -/
def TemplateFault.message : TemplateFault → String
  | flaw f => f.message
  | missingArgument i =>
    "Replacement index " ++ String.ofList (Nat.toDigits 10 i) ++
      " out of range for positional args tuple"
  | missingName name => Text.quote name
  | outOfRange .text => "string index out of range"
  | outOfRange k => k.shortName ++ " index out of range"
  | missingKey key => key
  | noAttribute k name => "'" ++ k.name ++ "' object has no attribute '" ++ name ++ "'"
  | notIndex .text => "string indices must be integers, not 'str'"
  | notIndex k => k.shortName ++ " indices must be integers or slices, not str"
  | noItems k => "'" ++ k.name ++ "' object is not subscriptable"
  | noLayout k => "unsupported format string passed to " ++ k.name ++ ".__format__"
  | noCharacter true => "%c arg not in range(0x110000)"
  | noCharacter false => "Python int too large to convert to C long"
  | fault f => f.message

end PassiveAggressive

import PassiveAggressive.Number.Refusal
import PassiveAggressive.Value.Literal
import PassiveAggressive.Yaml.Cursor

/-!
# The meaning of plain scalars

A scalar without a mark or a tag means what it looks like: a truth value, a number, a
date, nothing, or else a text.  `implicitTag` decides this by the look alone; the
readers below it give the value, and may still refuse it: `2021-02-30` looks like a
date.

Numbers are written in more ways than usual.  Underscores are ignored, a leading zero
makes a whole number octal, and colons separate places of base sixty, as in the time
of day.  A double needs a point, and its exponent a sign.
-/

namespace PassiveAggressive
namespace Yaml

/-- What kind of thing a node of a document is. -/
inductive Tag where
  | null
  | bool
  | int
  | float
  | timestamp
  | text
  | sequence
  | mapping
  | set
  /-- A sequence of mappings with one entry each. -/
  | pairs
  /-- The key under which other mappings are merged. -/
  | merge
  /-- The key that names a mapping's main value. -/
  | main
  /-- A tag without a meaning here. -/
  | unknown
  deriving DecidableEq, Repr

/-! ## Looks -/

/-- A digit or an underscore. -/
def isDigitMark (c : Char) : Bool := Number.isAsciiDigit c || c = '_'

/-- The text without a sign in front of it. -/
def unsigned (cs : List Char) : List Char :=
  match cs with
  | '+' :: r => r
  | '-' :: r => r
  | cs => cs

/-- A place of base sixty: one digit, or two of which the first is below six. -/
def isSixty (cs : List Char) : Bool :=
  match cs with
  | [a] => Number.isAsciiDigit a
  | [a, b] => '0' ≤ a && a ≤ '5' && Number.isAsciiDigit b
  | _ => false

/-- A decimal whole number without a leading zero, or zero. -/
def looksDecimal (cs : List Char) : Bool :=
  match cs with
  | ['0'] => true
  | c :: r => '1' ≤ c && c ≤ '9' && r.all isDigitMark
  | [] => false

/-- A whole number with places of base sixty. -/
def looksSixties (cs : List Char) : Bool :=
  match Text.splitOn ':' [] cs with
  | first :: rest => looksDecimal first && first ≠ ['0'] && !rest.isEmpty && rest.all isSixty
  | [] => false

/-- A whole number of base two, eight or sixteen. -/
def looksPrefixed (cs : List Char) : Bool :=
  match cs with
  | '0' :: 'b' :: r => !r.isEmpty && r.all fun c => c = '0' || c = '1' || c = '_'
  | '0' :: 'x' :: r => !r.isEmpty && r.all fun c => (c.isAlphanum && c.toLower ≤ 'f') || c = '_'
  | '0' :: r => !r.isEmpty && r.all fun c => ('0' ≤ c && c ≤ '7') || c = '_'
  | _ => false

/-- A whole number. -/
def looksInt (cs : List Char) : Bool :=
  let cs := unsigned cs
  looksDecimal cs || looksPrefixed cs || looksSixties cs

/-- The exponent of a double: nothing, or a letter, a sign and digits. -/
def looksExponent (cs : List Char) : Bool :=
  match cs with
  | [] => true
  | e :: s :: r =>
    (e = 'e' || e = 'E') && (s = '+' || s = '-') && !r.isEmpty && r.all Number.isAsciiDigit
  | _ => false

/-- A double with digits before the point. -/
def looksPointed (cs : List Char) : Bool :=
  match cs with
  | c :: _ =>
    Number.isAsciiDigit c &&
      match cs.dropWhile isDigitMark with
      | '.' :: r => looksExponent (r.dropWhile isDigitMark)
      | _ => false
  | [] => false

/-- A double that begins with its point. -/
def looksPointFirst (cs : List Char) : Bool :=
  match cs with
  | '.' :: c :: r => Number.isAsciiDigit c && looksExponent (r.dropWhile isDigitMark)
  | _ => false

/-- A double with places of base sixty. -/
def looksSixtiesPointed (cs : List Char) : Bool :=
  match Text.splitOn ':' [] cs with
  | first :: rest =>
    match first.head?, rest.getLast? with
    | some c, some last =>
      Number.isAsciiDigit c && first.all isDigitMark && rest.dropLast.all isSixty &&
        match Text.cutAt? '.' last with
        | some (whole, decimals) => isSixty whole && decimals.all isDigitMark
        | none => false
    | _, _ => false
  | [] => false

/-- The word for an infinite double. -/
def looksInfinite (cs : List Char) : Bool :=
  [".inf", ".Inf", ".INF"].contains (String.ofList (unsigned cs))

/-- A double. -/
def looksFloat (cs : List Char) : Bool :=
  looksPointed (unsigned cs) || looksPointFirst cs || looksSixtiesPointed (unsigned cs) ||
    looksInfinite cs || [".nan", ".NaN", ".NAN"].contains (String.ofList cs)

/-- The words for truth values, in lower case. -/
def truthWords : List (String × Bool) :=
  [("yes", true), ("no", false), ("true", true), ("false", false), ("on", true), ("off", false)]

/-- A truth value: a word in lower case, in capitals, or with a capital first. -/
def looksBool (s : String) : Bool :=
  truthWords.any fun w =>
    s = w.1 || s = w.1.capitalize || s = w.1.toUpper

/-- Nothing. -/
def looksNull (s : String) : Bool := ["", "~", "null", "Null", "NULL"].contains s

/-! ## Dates -/

/-- A date, perhaps with a time of day, as it is written. -/
structure Stamp where
  year : Nat
  month : Nat
  day : Nat
  /-- Hour, minute, second and the digits of the fraction of a second. -/
  time : Option (Nat × Nat × Nat × List Char)
  /-- The offset from universal time in minutes. -/
  offset : Option Int

/-- The number in a run of digits. -/
def digitsValue (cs : List Char) : Nat := Text.valueOfDigits (cs.map fun c => c.toNat - 48)

/-- Between `least` and `most` digits at the front, as many as there are. -/
def someDigits (least most : Nat) (cs : List Char) : Option (Nat × List Char) :=
  let ds := (cs.take most).takeWhile Number.isAsciiDigit
  if ds.length < least then none else some (digitsValue ds, cs.drop ds.length)

/-- A character that has to come next. -/
def expect (c : Char) (cs : List Char) : Option (List Char) :=
  match cs with
  | d :: r => if d = c then some r else none
  | [] => none

/-- A space or a tab. -/
def isStampBlank (c : Char) : Bool := c = ' ' || c = '\t'

/-- The offset at the end of a date, if there is one; nothing may follow it. -/
def stampOffset (cs : List Char) : Option (Option Int) :=
  if cs.isEmpty then some none
  else
    match cs.dropWhile isStampBlank with
    | ['Z'] => some (some 0)
    | sign :: r =>
      if sign = '+' || sign = '-' then do
        let (hours, r) ← someDigits 1 2 r
        let minutes ←
          match r with
          | [] => some 0
          | r => do
            let (minutes, r) ← (expect ':' r).bind (someDigits 2 2)
            if r.isEmpty then some minutes else none
        let offset : Int := hours * 60 + minutes
        some (some (if sign = '-' then -offset else offset))
      else none
    | [] => none

/-- The time of day after a date. -/
def stampTime (cs : List Char) : Option ((Nat × Nat × Nat × List Char) × Option Int) := do
  let (hour, cs) ← someDigits 1 2 cs
  let (minute, cs) ← (expect ':' cs).bind (someDigits 2 2)
  let (second, cs) ← (expect ':' cs).bind (someDigits 2 2)
  let (fraction, cs) :=
    match cs with
    | '.' :: r => (r.takeWhile Number.isAsciiDigit, r.dropWhile Number.isAsciiDigit)
    | cs => ([], cs)
  let offset ← stampOffset cs
  some ((hour, minute, second, fraction), offset)

/-- The parts of a date. -/
def stamp? (cs : List Char) : Option Stamp := do
  let (year, cs) ← someDigits 4 4 cs
  let (month, cs) ← (expect '-' cs).bind (someDigits 1 2)
  let (day, cs) ← (expect '-' cs).bind (someDigits 1 2)
  match cs with
  | [] => some ⟨year, month, day, none, none⟩
  | c :: r =>
    if c = 'T' || c = 't' then do
      let (time, offset) ← stampTime r
      some ⟨year, month, day, some time, offset⟩
    else if isStampBlank c then do
      let (time, offset) ← stampTime (r.dropWhile isStampBlank)
      some ⟨year, month, day, some time, offset⟩
    else none

/-- A date that is recognised without a tag; without a time of day it has all its digits. -/
def looksTimestamp (cs : List Char) : Bool :=
  match stamp? cs with
  | some s => s.time.isSome || cs.length = 10
  | none => false

/-- The tag that a plain scalar has by its look. -/
def implicitTag (text : String) : Tag :=
  let cs := text.toList
  if looksNull text then .null
  else if looksBool text then .bool
  else if looksFloat cs then .float
  else if looksInt cs then .int
  else if text = "<<" then .merge
  else if looksTimestamp cs then .timestamp
  else if text = "=" then .main
  else .text

/-! ## Values -/

/-- The value of a digit in a base up to sixteen. -/
def digitIn? (base : Nat) (c : Char) : Option Nat :=
  let v := if Number.isAsciiDigit c then some (c.toNat - 48)
    else if 'a' ≤ c.toLower && c.toLower ≤ 'f' then some (c.toLower.toNat - 87)
    else none
  v.filter (· < base)

/-- A whole number in a base other than ten. -/
def inBase (base : Nat) (cs : List Char) : Except DocumentError Int :=
  match cs.mapM (digitIn? base) with
  | some (d :: ds) => .ok ((d :: ds).foldl (fun acc d => acc * base + d) 0 : Nat)
  | _ => .error (.unreadableScalar ("invalid literal for int() with base " ++
      Number.showNat base ++ ": " ++ Text.quote (String.ofList cs)))

/-- A decimal whole number. -/
def inTen (cs : List Char) : Except DocumentError Int :=
  match Number.natural (String.ofList cs) with
  | .ok n => .ok n
  | .error e => .error (.unreadableScalar e.message)

/-- The value of an unsigned whole number without underscores. -/
def magnitude (cs : List Char) : Except DocumentError Int :=
  match cs with
  | [] => .error .emptyNumber
  | ['0'] => .ok 0
  | '0' :: 'b' :: r => inBase 2 r
  | '0' :: 'x' :: r => inBase 16 r
  | '0' :: r => inBase 8 ('0' :: r)
  | cs =>
    if cs.contains ':' then do
      let places ← (Text.splitOn ':' [] cs).mapM inTen
      .ok (places.foldl (fun acc d => acc * 60 + d) 0)
    else inTen cs

/-- The value of a whole number. -/
def readInt (text : String) : Except DocumentError Int :=
  let cs := text.toList.filter (· ≠ '_')
  if cs.isEmpty then .error .emptyNumber
  else (magnitude (unsigned cs)).map fun n => if cs.head? = some '-' then -n else n

/-- A part of a double. -/
def readPart (cs : List Char) : Except DocumentError Float :=
  match Number.float? (String.ofList cs) with
  | some x => .ok x
  | none => .error (.unreadableScalar (Number.notAFloat (String.ofList cs)))

/-- Places of base sixty, the last one first, added up from there. -/
def addSixties (base : Nat) (sum : Float) : List Float → Float
  | [] => sum
  | d :: ds => addSixties (base * 60) (sum + d * Number.ofInt base) ds

/-- The value of a double. -/
def readFloat (text : String) : Except DocumentError Float := do
  let cs := (text.toList.filter (· ≠ '_')).map Char.toLower
  if cs.isEmpty then .error .emptyNumber
  let negative := cs.head? = some '-'
  let cs := unsigned cs
  if cs.isEmpty then .error (.unreadableScalar (Number.notAFloat ""))
  let x ←
    if String.ofList cs = ".inf" then .ok (Number.infinity false)
    else if String.ofList cs = ".nan" then .ok Number.nan
    else if cs.contains ':' then do
      let places ← (Text.splitOn ':' [] cs).mapM readPart
      .ok (addSixties 1 (Number.zero false) places.reverse)
    else readPart cs
  .ok (if negative then -x else x)

/-- The value of a truth word. -/
def readBool (text : String) : Except DocumentError Bool :=
  match truthWords.lookup (Text.lower text) with
  | some b => .ok b
  | none => .error (.unknownTruth (Text.lower text))

/-- A year with a leap day. -/
def isLeap (year : Nat) : Bool := year % 4 = 0 && (year % 100 ≠ 0 || year % 400 = 0)

/-- The number of days of a month. -/
def monthLength (year month : Nat) : Nat :=
  if month = 2 then (if isLeap year then 29 else 28)
  else if [4, 6, 9, 11].contains month then 30
  else 31

/-- A condition on a date. -/
def require (holds : Bool) (reason : String) : Except DocumentError Unit :=
  if holds then .ok () else .error (.unreadableScalar reason)

/-- The microseconds in the digits of a fraction of a second. -/
def microseconds (fraction : List Char) : Nat :=
  let ds := fraction.take 6
  digitsValue (ds ++ List.replicate (6 - ds.length) '0')

/-- The offset of a date is less than a day. -/
def checkOffset (offset : Option Int) : Except DocumentError Unit :=
  match offset with
  | none => .ok ()
  | some o =>
    require (o.natAbs < 1440)
      ("offset must be a timedelta strictly between -timedelta(hours=24) and " ++
        "timedelta(hours=24), not " ++ Moment.durationLiteral o ++ ".")

/-- The moment that a date stands for. -/
def Stamp.moment (s : Stamp) : Except DocumentError Moment := do
  checkOffset s.offset
  require (1 ≤ s.year) "year 0 is out of range"
  require (1 ≤ s.month && s.month ≤ 12) "month must be in 1..12"
  require (1 ≤ s.day && s.day ≤ monthLength s.year s.month) "day is out of range for month"
  match s.time with
  | none => .ok (.date s.year s.month s.day)
  | some (hour, minute, second, fraction) => do
    require (hour ≤ 23) "hour must be in 0..23"
    require (minute ≤ 59) "minute must be in 0..59"
    require (second ≤ 59) "second must be in 0..59"
    .ok (.time s.year s.month s.day hour minute second (microseconds fraction) s.offset)

/-- The value of a date. -/
def readTimestamp (text : String) : Except DocumentError Moment :=
  match stamp? text.toList with
  | none => .error .notADate
  | some s => s.moment

end Yaml
end PassiveAggressive

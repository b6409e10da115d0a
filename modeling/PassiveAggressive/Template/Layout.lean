import PassiveAggressive.Number.Numeral
import PassiveAggressive.Number.Rendering
import PassiveAggressive.Number.Word64
import PassiveAggressive.Scalar
import PassiveAggressive.Template.Flaw
import PassiveAggressive.Value.Literal
import PassiveAggressive.Value.Operand

/-!
# Layouts of fields

A field of a template may say how its value is laid out: how wide, where in that
width, with which sign and how many decimals.  A layout is written in this order, and
every part may be left out:

    fill and alignment, sign, z, #, 0, width, separator of thousands, precision, code

Texts, whole numbers and doubles can be laid out; a truth value is laid out as the
whole number it stands for, and other values have no layout.
-/

namespace PassiveAggressive
namespace Template

/-- Where a text stands in its field. -/
inductive Alignment where
  | left
  | right
  | center
  /-- At the right, with the sign at the left. -/
  | apart
  deriving DecidableEq, Repr

/-- The alignment that a character stands for. -/
def Alignment.ofChar? : Char → Option Alignment
  | '<' => some left
  | '>' => some right
  | '^' => some center
  | '=' => some apart
  | _ => none

/-- How a value is laid out. -/
structure Layout where
  fill : Char
  alignment : Alignment
  /-- The character in the place of a sign that may be shown for all numbers. -/
  sign : Option Char
  /-- Whether a negative zero loses its sign. -/
  plainZero : Bool
  alternate : Bool
  width : Nat
  separator : Option Char
  precision : Option Nat
  code : Option Char
  deriving DecidableEq, Repr

namespace Layout

/-- The largest number a layout can hold. -/
def limit : Nat := 9223372036854775807

/-- The number at the front, if there is one, and what follows. -/
def takeNumber (cs : List Char) : Except Flaw (Option Nat × List Char) :=
  match cs.takeWhile Text.isDecimal with
  | [] => .ok (none, cs)
  | ds =>
    let n := Text.valueOfDigits (ds.filterMap Text.decimalValue?)
    if limit < n then .error .tooManyDigits else .ok (some n, cs.drop ds.length)

/-- Whether a character is at the front, and what follows it. -/
def takeMark (mark : Char) (cs : List Char) : Bool × List Char :=
  match cs with
  | c :: r => if c = mark then (true, r) else (false, cs)
  | [] => (false, [])

/-- The fill, if it is given, the alignment, if it is given, and what follows. -/
def takeAlignment (cs : List Char) : Option Char × Option Alignment × List Char :=
  match cs with
  | c :: d :: r =>
    match Alignment.ofChar? d, Alignment.ofChar? c with
    | some a, _ => (some c, some a, r)
    | none, some a => (none, some a, d :: r)
    | none, none => (none, none, cs)
  | [c] =>
    match Alignment.ofChar? c with
    | some a => (none, some a, [])
    | none => (none, none, cs)
  | [] => (none, none, [])

/-- The separator of thousands and what follows. -/
def takeSeparator (cs : List Char) : Except Flaw (Option Char × List Char) :=
  let (comma, cs) := takeMark ',' cs
  let (underscore, cs) := takeMark '_' cs
  if comma && underscore then .error .bothSeparators
  else if underscore && cs.head? = some ',' then .error .bothSeparators
  else .ok (if comma then some ',' else if underscore then some '_' else none, cs)

/-- The precision and what follows. -/
def takePrecision (cs : List Char) : Except Flaw (Option Nat × List Char) := do
  match cs with
  | '.' :: r =>
    match ← takeNumber r with
    | (none, _) => .error .missingPrecision
    | (some n, rest) => .ok (some n, rest)
  | cs => .ok (none, cs)

/-- Separators go with the codes of numbers; digits of a power of two take underscores only. -/
def checkSeparator (separator code : Option Char) : Except Flaw Unit :=
  match separator, code with
  | some s, some c =>
    if "deEfFgG%".toList.contains c then .ok ()
    else if s = '_' && "boxX".toList.contains c then .ok ()
    else .error (.separatorWith s c)
  | _, _ => .ok ()

/-- The layout that is written for a value of a kind; `standard` is the alignment of such values. -/
def read (kind : Kind) (standard : Alignment) (cs : List Char) : Except Flaw Layout := do
  let (fill, alignment, r) := takeAlignment cs
  let (sign, r) :=
    match r with
    | c :: r => if c = ' ' || c = '+' || c = '-' then (some c, r) else (none, c :: r)
    | [] => (none, [])
  let (plainZero, r) := takeMark 'z' r
  let (alternate, r) := takeMark '#' r
  let (zeros, r) := if fill.isNone then takeMark '0' r else (false, r)
  let (width, r) ← takeNumber r
  let (separator, r) ← takeSeparator r
  let (precision, r) ← takePrecision r
  let code ←
    match r with
    | [] => .ok none
    | [c] => .ok (some c)
    | _ => .error (.badLayout (String.ofList cs) kind)
  checkSeparator separator (if kind = .text then code.or (some 's') else code)
  .ok {
    fill := fill.getD (if zeros then '0' else ' ')
    alignment := alignment.getD (if zeros && standard = .right then .apart else standard)
    sign, plainZero, alternate
    width := width.getD 0
    separator, precision, code }

/-- A text in its place; `front` stays at the left where the two stand apart. -/
def place (l : Layout) (front body : List Char) : List Char :=
  let missing := l.width - (front.length + body.length)
  let fill (n : Nat) : List Char := List.replicate n l.fill
  match l.alignment with
  | .left => front ++ body ++ fill missing
  | .right => fill missing ++ front ++ body
  | .center => fill (missing / 2) ++ front ++ body ++ fill (missing - missing / 2)
  | .apart => front ++ fill missing ++ body

/-! ## Texts -/

/-- Refuses what is for numbers only. -/
def checkText (l : Layout) : Except Flaw Unit :=
  match l.code with
  | some c => if c = 's' then .ok () else .error (.unknownCode c .text)
  | none => .ok ()

/-- A text laid out. -/
def text (l : Layout) (s : String) : Except Flaw (List Char) := do
  checkText l
  match l.sign with
  | some ' ' => .error (.notForTexts "Space")
  | some _ => .error (.notForTexts "Sign")
  | none => .ok ()
  if l.plainZero then .error (.notForTexts "Negative zero coercion (z)")
  if l.alternate then .error (.notForTexts "Alternate form (#)")
  if l.alignment = .apart then .error (.notForTexts "'=' alignment")
  let cs := s.toList
  .ok (l.place [] (match l.precision with
    | some n => cs.take n
    | none => cs))

/-! ## Numbers -/

/-- The sign of a number. -/
def signChars (l : Layout) (negative : Bool) : List Char :=
  if negative then ['-']
  else
    match l.sign with
    | some '-' => []
    | some c => [c]
    | none => []

/-- Digits, the last one first, in groups of `size` with separators between them; zeros fill them up
to `least` characters.  Every round takes a digit or lessens `least`. -/
def grouped (separator : Char) (size : Nat) : Nat → List Char → Nat → List Char
  | 0, ds, _ => ds
  | fuel + 1, ds, least =>
    let count := min size (max (max ds.length least) 1)
    let group := ds.take count ++ List.replicate (count - ds.length) '0'
    let rest := ds.drop count
    let least := least - count
    if rest.isEmpty && least = 0 then group
    else group ++ separator :: grouped separator size fuel rest (least - 1)

/-- The digits at the front of a number with separators, filled up with zeros to `least`
characters. -/
def separated (l : Layout) (size least : Nat) (digits : List Char) : List Char :=
  match l.separator with
  | none => digits
  | some s => (grouped s size (digits.length + least + 1) digits.reverse least).reverse

/-- A number in its place: its sign and the mark of its base, its digits, and what follows them. -/
def number (l : Layout) (size : Nat) (front digits rest : List Char) : List Char :=
  let least :=
    if l.fill = '0' && l.alignment = .apart then l.width - (front.length + rest.length) else 0
  l.place front ((if digits.isEmpty then [] else l.separated size least digits) ++ rest)

/-- The digits of a number in a base up to sixteen. -/
def digitsIn (base n : Nat) : List Char := Nat.toDigits base n

/-- The base that a code stands for, and the mark before its digits. -/
def base? : Char → Option (Nat × List Char)
  | 'b' => some (2, ['0', 'b'])
  | 'o' => some (8, ['0', 'o'])
  | 'x' => some (16, ['0', 'x'])
  | 'X' => some (16, ['0', 'X'])
  | _ => none

/-- A whole number as a character. -/
def character (l : Layout) (n : Int) : Except TemplateFault (List Char) :=
  if l.sign.isSome then .error (.flaw (.notForCharacters "Sign"))
  else if l.alternate then .error (.flaw (.notForCharacters "Alternate form (#)"))
  else if 0 ≤ n && n < 0x110000 then .ok (l.number 3 [] [] [Char.ofNat n.toNat])
  else .error (.noCharacter (Number.fitsSigned n))

/-- A whole number laid out as such. -/
def whole (l : Layout) (n : Int) : Except TemplateFault (List Char) := do
  if l.precision.isSome then .error (.flaw (.notForWholes "Precision"))
  if l.plainZero then .error (.flaw (.notForWholes "Negative zero coercion (z)"))
  let code := l.code.getD 'd'
  if code = 'c' then l.character n
  else
    let sign := l.signChars (n < 0)
    match base? code with
    | none => .ok (l.number 3 sign (Number.natChars n.natAbs) [])
    | some (base, mark) =>
      let digits := digitsIn base n.natAbs
      let digits := if code = 'X' then digits.map Char.toUpper else digits
      .ok (l.number 4 (sign ++ if l.alternate then mark else []) digits [])

/-- The text of a double without its sign, for a code in lower case. -/
def doubleText (l : Layout) (x : Float) : String :=
  match l.code.map Char.toLower with
  | some 'e' => Number.showScientific (l.precision.getD 6) x
  | some 'f' => Number.showFixed (l.precision.getD 6) x
  | some '%' => Number.showFixed (l.precision.getD 6) (x * Number.ofInt 100) ++ "%"
  | some _ =>
    let count := max 1 (l.precision.getD 6)
    Number.showSignificant (.rounded count) l.alternate count x
  | none =>
    match l.precision with
    | some n => Number.showSignificant (.roundedExact (max 1 n)) l.alternate (max 1 n) x
    | none => Number.showFloat x

/-- A point after the digits, if there is none and one is wanted. -/
def withPoint (l : Layout) (rest : List Char) : List Char :=
  if l.alternate && rest.head? ≠ some '.' then '.' :: rest else rest

/-- Whether a text stands for zero. -/
def isZeroText (cs : List Char) : Bool := cs.all fun c => c = '0' || c = '.' || c = '%'

/-- A double laid out. -/
def double (l : Layout) (kind : Kind) (x : Float) : Except TemplateFault (List Char) :=
  let known := match l.code with
    | some c => "eEfFgGn%".toList.contains c
    | none => true
  if known then
    let cs := (l.doubleText x).toList
    let (negative, cs) := match cs with
      | '-' :: r => (!(l.plainZero && isZeroText r), r)
      | cs => (false, cs)
    let digits := cs.takeWhile Number.isAsciiDigit
    let rest := cs.drop digits.length
    let rest := if digits.isEmpty then rest else l.withPoint rest
    let upper := match l.code with
      | some c => c.isUpper
      | none => false
    let rest := if upper then rest.map Char.toUpper else rest
    .ok (l.number 3 (l.signChars negative) digits rest)
  else .error (.flaw (.unknownCode (l.code.getD ' ') kind))

end Layout

/-- A whole number laid out as the text says. -/
def layOutWhole (kind : Kind) (n : Int) (cs : List Char) : Except TemplateFault (List Char) := do
  let l ← (Layout.read kind .right cs).mapError .flaw
  match l.code with
  | none => l.whole n
  | some c =>
    if "bcdoxXn".toList.contains c then l.whole n
    else if "eEfFgG%".toList.contains c then do
      let x ← ((Scalar.int n).toReal).mapError .fault
      l.double kind x
    else .error (.flaw (.unknownCode c kind))

/-- A value laid out as the text says; without a text, as it is displayed. -/
def layOut (v : Value) (cs : List Char) : Except TemplateFault (List Char) :=
  if cs.isEmpty then .ok v.display.toList
  else
    match v with
    | .int n => layOutWhole .int n cs
    | .bool b => layOutWhole .bool (if b then 1 else 0) cs
    | .float x => do
      let l ← (Layout.read .float .right cs).mapError .flaw
      l.double .float x
    | .text _ | .variant _ => do
      let l ← (Layout.read .text .left cs).mapError .flaw
      (l.text v.display).mapError .flaw
    | v => .error (.noLayout v.kind)

end Template
end PassiveAggressive

import PassiveAggressive.Number.Numeral
import PassiveAggressive.Yaml.Cursor

/-!
# The text of scalars

A scalar is written in one of five styles, and line breaks inside it are folded by
rules of the style: in a plain or quoted scalar a single break becomes a space and
further breaks are kept; a literal block keeps every break; a folded block joins
lines that begin without a blank.

Each function reads one style and returns the text with the position after it.  The
loops are bounded by the number of characters left, which every round reduces.
-/

namespace PassiveAggressive
namespace Yaml

/-- Line breaks inside a scalar, folded: a lone line feed becomes a space, the first of several
is dropped, and a break of another kind is kept. -/
def foldBreaks (first : List Char) (more : List Char) : List Char :=
  if first ≠ ['\n'] then first ++ more
  else if more.isEmpty then [' ']
  else more

/-! ## Quoted scalars -/

/-- The single quotation mark. -/
def apostrophe : Char := Char.ofNat 39

/-- The double quotation mark. -/
def quotation : Char := Char.ofNat 34

/-- A character of a quoted scalar that needs no attention. -/
def isOrdinary (c : Char) : Bool :=
  !(c = apostrophe || c = quotation || c = '\\' || isGap c)

/-- The character that an escape letter stands for. -/
def escaped? (c : Char) : Option Char :=
  match c with
  | '0' => some (Char.ofNat 0)
  | 'a' => some (Char.ofNat 7)
  | 'b' => some (Char.ofNat 8)
  | 't' => some '\t'
  | '\t' => some '\t'
  | 'n' => some '\n'
  | 'v' => some (Char.ofNat 11)
  | 'f' => some (Char.ofNat 12)
  | 'r' => some '\r'
  | 'e' => some (Char.ofNat 27)
  | ' ' => some ' '
  | '\\' => some '\\'
  | '/' => some '/'
  | 'N' => some (Char.ofNat 0x85)
  | '_' => some (Char.ofNat 0xA0)
  | 'L' => some (Char.ofNat 0x2028)
  | 'P' => some (Char.ofNat 0x2029)
  | c => if c = quotation then some c else none

/-- The number of hexadecimal digits after an escape letter for a code point. -/
def codeLength? (c : Char) : Option Nat :=
  match c with
  | 'x' => some 2
  | 'u' => some 4
  | 'U' => some 8
  | _ => none

/-- The value of a hexadecimal digit. -/
def hexValue? (c : Char) : Option Nat :=
  let n := c.toNat
  if 48 ≤ n && n ≤ 57 then some (n - 48)
  else if 65 ≤ n && n ≤ 70 then some (n - 55)
  else if 97 ≤ n && n ≤ 102 then some (n - 87)
  else none

/-- The value of a run of hexadecimal digits. -/
def hexNumber? (cs : List Char) : Option Nat :=
  cs.foldlM (fun acc c => (hexValue? c).map (acc * 16 + ·)) 0

/-- Blank lines inside a quoted scalar: the breaks, and the position of the first character that
is neither a blank nor a break.  A document marker may not begin a line here. -/
def quotedBreaks : Nat → Cursor → Except DocumentError (List Char × Cursor)
  | 0, _ => .error .malformed
  | fuel + 1, c =>
    if c.atAnyMarker then .error .malformed
    else
      let c := c.skip fun ch => ch = ' ' || ch = '\t'
      if isBreak c.next then do
        let (first, c) := c.lineBreak
        let (more, c) ← quotedBreaks fuel c
        .ok (first ++ more, c)
      else .ok ([], c)

/-- The blanks between two words of a quoted scalar, folded if they hold a break. -/
def quotedSpaces (fuel : Nat) (c : Cursor) : Except DocumentError (List Char × Cursor) :=
  let isSpace (ch : Char) : Bool := ch = ' ' || ch = '\t'
  let blanks := c.run isSpace
  let c := c.skip isSpace
  if c.next = Cursor.stop then .error .malformed
  else if isBreak c.next then do
    let (first, c) := c.lineBreak
    let (more, c) ← quotedBreaks fuel c
    .ok (foldBreaks first more, c)
  else .ok (blanks, c)

/-- One escape of a double-quoted scalar, the cursor standing after the backslash. -/
def escape (fuel : Nat) (c : Cursor) : Except DocumentError (List Char × Cursor) :=
  match escaped? c.next with
  | some ch => .ok ([ch], c.step)
  | none =>
    match codeLength? c.next with
    | some length =>
      let c := c.step
      match hexNumber? (c.rest.take length) with
      | some code =>
        if c.rest.length < length then .error .malformed
        else if code < 0x110000 then .ok ([Char.ofNat code], c.forward length)
        else .error (.unreadableScalar "chr() arg not in range(0x110000)")
      | none => .error .malformed
    | none =>
      if isBreak c.next then quotedBreaks fuel c.lineBreak.2
      else .error .malformed

/-- The rest of a quoted scalar, up to the closing mark. -/
def quotedRest (double : Bool) : Nat → Cursor → Except DocumentError (List Char × Cursor)
  | 0, _ => .error .malformed
  | fuel + 1, c =>
    let ch := c.next
    if ch = (if double then quotation else apostrophe) then
      if !double && c.peek 1 = apostrophe then do
        let (more, c) ← quotedRest double fuel (c.forward 2)
        .ok (apostrophe :: more, c)
      else .ok ([], c.step)
    else if isOrdinary ch then do
      let word := c.run isOrdinary
      let (more, c) ← quotedRest double fuel (c.skip isOrdinary)
      .ok (word ++ more, c)
    else if double && ch = '\\' then do
      let (first, c) ← escape fuel c.step
      let (more, c) ← quotedRest double fuel c
      .ok (first ++ more, c)
    else if isGap ch then do
      let (first, c) ← quotedSpaces fuel c
      let (more, c) ← quotedRest double fuel c
      .ok (first ++ more, c)
    else do
      let (more, c) ← quotedRest double fuel c.step
      .ok (ch :: more, c)

/-- A quoted scalar, the cursor standing on its opening mark. -/
def quotedScalar (double : Bool) (c : Cursor) : Except DocumentError (List Char × Cursor) :=
  quotedRest double (c.rest.length + 1) c.step

/-! ## Block scalars -/

/-- What becomes of the line breaks at the end of a block scalar. -/
inductive Chomping where
  | strip
  | clip
  | keep
  deriving DecidableEq

/-- The indicator of an end of block scalars. -/
def chomping? (c : Char) : Option Chomping :=
  if c = '+' then some .keep else if c = '-' then some .strip else none

/-- An explicit indentation: a digit that is not zero. -/
def indentation (c : Cursor) : Except DocumentError (Option Nat × Cursor) :=
  match hexValue? c.next with
  | some n => if n = 0 then .error .malformed
    else if n < 10 then .ok (some n, c.step) else .ok (none, c)
  | none => .ok (none, c)

/-- The indicators after `|` or `>`: an end and an indentation, in either order. -/
def blockHeader (c : Cursor) : Except DocumentError (Chomping × Option Nat × Cursor) := do
  let (chomping, increment, c) ←
    match chomping? c.next with
    | some chomping => do
      let (increment, c) ← indentation c.step
      .ok (chomping, increment, c)
    | none => do
      let (increment, c) ← indentation c
      match increment, chomping? c.next with
      | some _, some chomping => .ok (chomping, increment, c.step)
      | _, _ => .ok (.clip, increment, c)
  if !isSpaceOrEnd c.next then .error .malformed
  let c := c.skipSpaces.skipComment
  if !isBreakOrEnd c.next then .error .malformed
  .ok (chomping, increment, c.lineBreak.2)

/-- Blank lines at the beginning of a block scalar: the breaks, the greatest column reached by
spaces, and the position after them. -/
def leadingBreaks : Nat → Cursor → Nat → List Char × Nat × Cursor
  | 0, c, widest => ([], widest, c)
  | fuel + 1, c, widest =>
    if c.next = ' ' then
      let c := c.step
      leadingBreaks fuel c (max widest c.column)
    else if isBreak c.next then
      let (first, c) := c.lineBreak
      let (more, widest, c) := leadingBreaks fuel c widest
      (first ++ more, widest, c)
    else ([], widest, c)

/-- Spaces up to the given column. -/
def skipTo (column : Nat) : Nat → Cursor → Cursor
  | 0, c => c
  | fuel + 1, c =>
    if c.column < column && c.next = ' ' then skipTo column fuel c.step else c

/-- Blank lines of a block scalar indented by `column`. -/
def blockBreaks (column : Nat) : Nat → Cursor → List Char × Cursor
  | 0, c => ([], c)
  | fuel + 1, c =>
    let c := skipTo column column c
    if isBreak c.next then
      let (first, c) := c.lineBreak
      let (more, c) := blockBreaks column fuel c
      (first ++ more, c)
    else ([], c)

/-- The lines of a block scalar indented by `column`: their text, the last line break, and the
blank lines after it. -/
def blockLines (folded : Bool) (column : Nat) (breaks : List Char) :
    Nat → Cursor → List Char × List Char × List Char × Cursor
  | 0, c => ([], [], breaks, c)
  | fuel + 1, c =>
    if c.column = column && c.next ≠ Cursor.stop then
      let startsWord := !(c.next = ' ' || c.next = '\t')
      let text := c.run fun ch => !isBreakOrEnd ch
      let c := c.skip fun ch => !isBreakOrEnd ch
      let (last, c) := c.lineBreak
      let (after, c) := blockBreaks column fuel c
      if c.column = column && c.next ≠ Cursor.stop then
        let joint :=
          if folded && last = ['\n'] && startsWord && !(c.next = ' ' || c.next = '\t') then
            if after.isEmpty then [' '] else []
          else last
        let (more, last, after, c) := blockLines folded column after fuel c
        (breaks ++ text ++ joint ++ more, last, after, c)
      else (breaks ++ text, last, after, c)
    else ([], [], breaks, c)

/-- A block scalar inside a block indented by `indent`, the cursor standing on its indicator. -/
def blockScalar (folded : Bool) (indent : Int) (c : Cursor) :
    Except DocumentError (List Char × Cursor) := do
  let (chomping, increment, c) ← blockHeader c.step
  let fuel := c.rest.length + 1
  let least := (max (indent + 1) 1).toNat
  let (breaks, column, c) :=
    match increment with
    | some n =>
      let column := least + n - 1
      let (breaks, c) := blockBreaks column fuel c
      (breaks, column, c)
    | none =>
      let (breaks, widest, c) := leadingBreaks fuel c 0
      (breaks, max least widest, c)
  let (text, last, after, c) := blockLines folded column breaks fuel c
  let ending :=
    match chomping with
    | .strip => []
    | .clip => last
    | .keep => last ++ after
  .ok (text ++ ending, c)

/-! ## Plain scalars -/

/-- Whether a plain scalar goes on with the character at the cursor. -/
def continuesPlain (inFlow : Bool) (c : Cursor) : Bool :=
  let ch := c.next
  let isFlowMark (ch : Char) : Bool := ",[]\x7b\x7d".toList.contains ch
  !(isGap ch
    || (ch = ':' && (isGap (c.peek 1) || (inFlow && isFlowMark (c.peek 1))))
    || (inFlow && (isFlowMark ch || ch = '?')))

/-- The longest run of characters that a plain scalar goes on with. -/
def plainWord (inFlow : Bool) : Nat → Cursor → List Char × Cursor
  | 0, c => ([], c)
  | fuel + 1, c =>
    if continuesPlain inFlow c then
      let (more, after) := plainWord inFlow fuel c.step
      (c.next :: more, after)
    else ([], c)

/-- Blank lines inside a plain scalar; nothing if a document marker begins one of them. -/
def plainBreaks : Nat → Cursor → Option (List Char) × Cursor
  | 0, c => (some [], c)
  | fuel + 1, c =>
    if c.next = ' ' then plainBreaks fuel c.step
    else if isBreak c.next then
      let (first, c) := c.lineBreak
      if c.atAnyMarker then (none, c)
      else
        let (more, c) := plainBreaks fuel c
        (more.map (first ++ ·), c)
    else (some [], c)

/-- What stands between two words of a plain scalar: the blanks, folded if they hold a break
(empty if the scalar ends there), whether a line was left, and the position after them. -/
def plainSpaces (fuel : Nat) (c : Cursor) : List Char × Bool × Cursor :=
  let blanks := c.run (· = ' ')
  let c := c.skipSpaces
  if isBreak c.next then
    let (first, c) := c.lineBreak
    if c.atAnyMarker then ([], true, c)
    else
      match plainBreaks fuel c with
      | (some more, c) => (foldBreaks first more, true, c)
      | (none, c) => ([], true, c)
  else (blanks, false, c)

/-- The words of a plain scalar from the cursor on, with `gap` before the next one: the text,
whether it was left at the beginning of a line, and the position after it. -/
def plainRest (inFlow : Bool) (indent : Int) (gap : List Char) (leftLine : Bool) :
    Nat → Cursor → List Char × Bool × Cursor
  | 0, c => ([], leftLine, c)
  | fuel + 1, c =>
    if c.next = '#' then ([], leftLine, c)
    else
      let (word, c') := plainWord inFlow (c.rest.length + 1) c
      if word.isEmpty then ([], leftLine, c)
      else
        let (spaces, left, c') := plainSpaces fuel c'
        if spaces.isEmpty || c'.next = '#' || (!inFlow && (c'.column : Int) < indent + 1) then
          (gap ++ word, left, c')
        else
          let (more, left, c') := plainRest inFlow indent spaces left fuel c'
          (gap ++ word ++ more, left, c')

/-- A plain scalar inside a block indented by `indent`: its text, whether the cursor was left at
the beginning of a line, and the position after it. -/
def plainScalar (inFlow : Bool) (indent : Int) (c : Cursor) : List Char × Bool × Cursor :=
  plainRest inFlow indent [] false (c.rest.length + 1) c

end Yaml
end PassiveAggressive

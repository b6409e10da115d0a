import PassiveAggressive.Text.Quoted

/-!
# Reading position in a document

The reader of documents goes through the text character by character and looks a few
characters ahead.  What a character means depends on the column it stands in, so the
position carries line and column along.  Past the end of the text every look ahead
shows the NUL character, which no document contains.
-/

namespace PassiveAggressive
namespace Yaml

/-- Why a document has no value. -/
inductive DocumentError where
  /-- The text is not well formed, or uses a tag that has no meaning here. -/
  | malformed
  /-- A scalar is marked as a number or a date and is none; the text says why. -/
  | unreadableScalar (reason : String)
  /-- A scalar is marked as a truth value and is none. -/
  | unknownTruth (word : String)
  /-- A scalar is marked as a number and is empty. -/
  | emptyNumber
  /-- A scalar is marked as a date and does not look like one. -/
  | notADate
  deriving DecidableEq, Repr

/-- The wording of the error. -/
def DocumentError.message : DocumentError → String
  | malformed => "malformed document"
  | unreadableScalar reason => reason
  | unknownTruth word => Text.quote word
  | emptyNumber => "string index out of range"
  | notADate => "'NoneType' object has no attribute 'groupdict'"

/-- A position in the text: what is left of it, and where that begins. -/
structure Cursor where
  rest : List Char
  index : Nat
  line : Nat
  column : Nat

namespace Cursor

/-- The beginning of a text. -/
def start (text : List Char) : Cursor := ⟨text, 0, 0, 0⟩

/-- The character past the end of every text. -/
def stop : Char := Char.ofNat 0

/-- The byte order mark, which takes no column. -/
def mark : Char := Char.ofNat 0xFEFF

/-- The character `k` places ahead. -/
def peek (c : Cursor) (k : Nat) : Char := c.rest.getD k stop

/-- The next character. -/
def next (c : Cursor) : Char := c.peek 0

end Cursor

/-- A character that ends a line. -/
def isBreak (c : Char) : Bool :=
  c.toNat = 10 || c.toNat = 13 || c.toNat = 0x85 || c.toNat = 0x2028 || c.toNat = 0x2029

/-- A line break or the end of the text. -/
def isBreakOrEnd (c : Char) : Bool := isBreak c || c = Cursor.stop

/-- A space, a line break or the end of the text. -/
def isSpaceOrEnd (c : Char) : Bool := c = ' ' || isBreakOrEnd c

/-- A space, a tab, a line break or the end of the text. -/
def isGap (c : Char) : Bool := c = '\t' || isSpaceOrEnd c

namespace Cursor

/-- The position after the next character. -/
def step (c : Cursor) : Cursor :=
  match c.rest with
  | [] => c
  | ch :: rest =>
    let endsLine := isBreak ch && !(ch = '\r' && rest.head? = some '\n')
    if endsLine then ⟨rest, c.index + 1, c.line + 1, 0⟩
    else ⟨rest, c.index + 1, c.line, if ch = mark then c.column else c.column + 1⟩

/-- The position `n` characters further. -/
def forward (c : Cursor) : Nat → Cursor
  | 0 => c
  | n + 1 => c.step.forward n

/-- The longest run of characters that satisfy `p`. -/
def run (c : Cursor) (p : Char → Bool) : List Char := c.rest.takeWhile p

/-- The position after the longest run of characters that satisfy `p`. -/
def skip (c : Cursor) (p : Char → Bool) : Cursor := c.forward (c.run p).length

/-- The position after spaces. -/
def skipSpaces (c : Cursor) : Cursor := c.skip (· = ' ')

/-- One line break at the position, as it is kept in a scalar, and the position after it; nothing
and no move if there is none. -/
def lineBreak (c : Cursor) : List Char × Cursor :=
  let ch := c.next
  if ch = '\r' && c.peek 1 = '\n' then (['\n'], c.forward 2)
  else if ch.toNat = 0x2028 || ch.toNat = 0x2029 then ([ch], c.step)
  else if isBreak ch then (['\n'], c.step)
  else ([], c)

/-- The position after a comment, if one begins here. -/
def skipComment (c : Cursor) : Cursor :=
  if c.next = '#' then c.skip fun ch => !isBreakOrEnd ch else c

/-- Three equal characters of a document marker stand here, followed by a gap. -/
def atMarker (c : Cursor) (ch : Char) : Bool :=
  c.peek 0 = ch && c.peek 1 = ch && c.peek 2 = ch && isGap (c.peek 3)

/-- A document marker of either kind stands here. -/
def atAnyMarker (c : Cursor) : Bool := c.atMarker '-' || c.atMarker '.'

end Cursor
end Yaml
end PassiveAggressive

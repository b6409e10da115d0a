import PassiveAggressive.Screen.Pictograph
import PassiveAggressive.Text.Blank

/-!
# What is shown on the screen

Text for the screen is written in a markup.  A tag in square brackets switches a
colour and is not shown; a backslash in front of it takes that meaning away, and two
backslashes show one.  The name of a pictograph between colons shows the pictograph.

A message that quotes something from outside must not be taken for markup: `escape`
writes it so that it is shown as it is (`literal` is that, in colour).  A backslash
before a bracket that begins no tag is lost all the same, and of several backslashes
at the very end half are.

What is shown has no bells, backspaces, vertical tabs, form feeds and carriage
returns, and a tab reaches to the next multiple of eight columns.
-/

namespace PassiveAggressive
namespace Screen

/-! ## Tags -/

/-- A character that can begin a tag. -/
def beginsTag (c : Char) : Bool := ('a' ≤ c && c ≤ 'z') || c = '#' || c = '/' || c = '@'

/-- A character inside a tag. -/
def isInTag (c : Char) : Bool := c ≠ '[' && c ≠ ']'

/-- The tag at the front, with its brackets, and what follows it. -/
def tag? (cs : List Char) : Option (List Char × List Char) :=
  match cs with
  | '[' :: c :: r =>
    if beginsTag c then
      match r.dropWhile isInTag with
      | ']' :: rest => some ('[' :: c :: r.takeWhile isInTag ++ [']'], rest)
      | _ => none
    else none
  | _ => none

/-- A piece of markup. -/
inductive Piece where
  | text (cs : List Char)
  /-- A tag, and the number of backslashes in front of it. -/
  | tag (slashes : Nat) (cs : List Char)
  deriving DecidableEq, Repr

/-- A character in front of pieces. -/
def consText (c : Char) : List Piece → List Piece
  | .text cs :: ps => .text (c :: cs) :: ps
  | ps => .text [c] :: ps

/-- The pieces of a markup.  Every piece takes at least one character. -/
def piecesFrom : Nat → List Char → List Piece
  | 0, _ => []
  | _ + 1, [] => []
  | fuel + 1, c :: cs =>
    let slashes := (c :: cs).takeWhile (· = '\\')
    match tag? ((c :: cs).drop slashes.length) with
    | some (tag, rest) => .tag slashes.length tag :: piecesFrom fuel rest
    | none => consText c (piecesFrom fuel cs)

/-- The pieces of a markup. -/
def pieces (cs : List Char) : List Piece := piecesFrom cs.length cs

/-! ## Escaping -/

/-- A number of backslashes. -/
def slashes (n : Nat) : List Char := List.replicate n '\\'

/-- A piece as markup that shows it. -/
def Piece.escaped : Piece → List Char
  | text cs => cs
  | tag n cs => slashes (2 * n + 1) ++ cs

/-- A backslash at the end is written twice, unless it is already. -/
def closeSlash (cs : List Char) : List Char :=
  match cs.reverse with
  | ['\\'] => ['\\', '\\']
  | '\\' :: c :: _ => if c = '\\' then cs else cs ++ ['\\']
  | _ => cs

/-- A text as markup that shows it. -/
def escape (cs : List Char) : List Char := closeSlash ((pieces cs).flatMap Piece.escaped)

/-! ## What is seen -/

/-- The name of a pictograph and what stands for its variant. -/
def variant (name : List Char) : List Char × List Char :=
  if "-emoji".toList.isSuffixOf name then (name.take (name.length - 6), [Char.ofNat 0xFE0F])
  else if "-text".toList.isSuffixOf name then (name.take (name.length - 5), [Char.ofNat 0xFE0E])
  else (name, [])

/-- What the name of a pictograph between colons shows; a name of nothing stands for itself. -/
def named (name : List Char) : List Char :=
  let (base, suffix) := variant name
  match pictograph? (base.map Char.toLower) with
  | some glyph => glyph ++ suffix
  | none => ':' :: name ++ [':']

/-- A character of a name between colons. -/
def isNameChar (c : Char) : Bool := c ≠ ':' && !Text.isBlank c

/-- The text with its pictographs.  Every round takes at least one character. -/
def pictured : Nat → List Char → List Char
  | 0, cs => cs
  | _ + 1, [] => []
  | fuel + 1, c :: cs =>
    if c = ':' then
      match cs.dropWhile isNameChar with
      | ':' :: rest => named (cs.takeWhile isNameChar) ++ pictured fuel rest
      | _ => c :: pictured fuel cs
    else c :: pictured fuel cs

/-- The text without the backslashes before brackets. -/
def bare : List Char → List Char
  | [] => []
  | [c] => [c]
  | c :: d :: r => if c = '\\' && d = '[' then '[' :: bare r else c :: bare (d :: r)

/-- What a text in a markup shows. -/
def shownText (cs : List Char) : List Char :=
  let cs := bare cs
  pictured cs.length cs

/-- What a piece shows. -/
def Piece.shown : Piece → List Char
  | text cs => shownText cs
  | tag n cs => slashes (n / 2) ++ if n % 2 = 1 then shownText cs else []

/-- A control character that is not shown. -/
def isControl (c : Char) : Bool := [7, 8, 11, 12, 13].contains c.toNat

/-- The text with spaces for tabs, from a column on. -/
def untabbed (column : Nat) : List Char → List Char
  | [] => []
  | c :: cs =>
    if c = '\t' then
      let width := 8 - column % 8
      List.replicate width ' ' ++ untabbed (column + width) cs
    else c :: untabbed (if c = '\n' then 0 else column + 1) cs

/-- What a markup shows, as a line of the screen. -/
def shown (markup : String) : String :=
  let cs := (pieces markup.toList).flatMap Piece.shown
  String.ofList (untabbed 0 (cs.filter fun c => !isControl c)) ++ "\n"

/-- A text in a colour, as markup in which the text has no meaning. -/
def literal (colour text : String) : String :=
  "[" ++ colour ++ "]" ++ String.ofList (escape text.toList) ++ "[/" ++ colour ++ "]"

/-- Markup in a colour. -/
def coloured (colour markup : String) : String :=
  "[" ++ colour ++ "]" ++ markup ++ "[/" ++ colour ++ "]"

end Screen
end PassiveAggressive

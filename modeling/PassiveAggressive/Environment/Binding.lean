import PassiveAggressive.Text.Quoted
import PassiveAggressive.Text.Split

/-!
# Bindings

Settings may be kept in a file of bindings, one name and value a line:

    # how the learner is set
    export PA_VARIANT='PA2a'
    PA_EPSILON = 0.25   # a comment after a blank

A value in quotes may go over several lines and has escapes.  A value without quotes
ends at its line, or at a comment after a blank.  A name may stand alone, and then it
has no value.  A line that is no binding is passed over.

## How a failed line is passed over

What cannot be read ends the attempt where it stands, and reading goes on with the
line after that place; so every reader below answers either with what it read and the
text behind it, or with the text it got stuck at.
-/

namespace PassiveAggressive

/-- A name, and the value it is bound to if there is one. -/
structure Binding where
  name : String
  value : Option String
  deriving DecidableEq, Repr

namespace Binding

/-- What was read and the text behind it, or the text where reading got stuck. -/
abbrev Step (α : Type) := Except (List Char) (α × List Char)

/-- A blank within a line. -/
def isInlineBlank (c : Char) : Bool := Text.isBlank c && c ≠ '\n'

/-- The text after blanks within its line. -/
def skipInline (cs : List Char) : List Char := cs.dropWhile isInlineBlank

/-- The rest of the current line. -/
def line (cs : List Char) : List Char := cs.takeWhile (· ≠ '\n')

/-- The text after the current line. -/
def afterLine (cs : List Char) : List Char := (cs.dropWhile (· ≠ '\n')).drop 1

/-! ## Quotes -/

/-- The text up to the first `mark` that has no backslash before it, and the text after that. -/
def toFreeMark (mark : Char) : List Char → Option (List Char × List Char)
  | [] => none
  | [c] => if c = mark then some ([], []) else none
  | c :: d :: r =>
    if c = mark then some ([], d :: r)
    else if c = '\\' && d = mark then (toFreeMark mark r).map fun p => (c :: d :: p.1, p.2)
    else (toFreeMark mark (d :: r)).map fun p => (c :: p.1, p.2)

/-- The text up to the last `mark`, and the text after that. -/
def toLastMark (mark : Char) (cs : List Char) : Option (List Char × List Char) :=
  (Text.cutAt? mark cs.reverse).map fun p => (p.2.reverse, p.1.reverse)

/-- The text between marks, the first of which is behind: up to a mark without a backslash, or
else up to the last one there is. -/
def quoted (mark : Char) (cs : List Char) : Option (List Char × List Char) :=
  match toFreeMark mark cs with
  | some parts => some parts
  | none => toLastMark mark cs

/-- The escapes between single marks. -/
def singleEscapes : List (Char × Char) :=
  [('\\', '\\'), (Text.singleMark, Text.singleMark)]

/-- The escapes between double marks. -/
def doubleEscapes : List (Char × Char) :=
  singleEscapes ++ [(Text.doubleMark, Text.doubleMark), ('a', Char.ofNat 7), ('b', Char.ofNat 8),
    ('f', Char.ofNat 12), ('n', '\n'), ('r', '\r'), ('t', '\t'), ('v', Char.ofNat 11)]

/-- The text with its escapes read; a backslash before any other character stays. -/
def unescape (escapes : List (Char × Char)) : List Char → List Char
  | [] => []
  | [c] => [c]
  | c :: d :: r =>
    match if c = '\\' then escapes.lookup d else none with
    | some e => e :: unescape escapes r
    | none => c :: unescape escapes (d :: r)

/-! ## The parts of a binding -/

/-- The text after the word that may stand before a name. -/
def skipExport (cs : List Char) : List Char :=
  match Text.afterStart? "export".toList cs with
  | some (c :: r) => if isInlineBlank c then skipInline r else cs
  | _ => cs

/-- A character of a name without quotes. -/
def isNameChar (c : Char) : Bool := c ≠ '=' && c ≠ '#' && !Text.isBlank c

/-- The name, or nothing before a comment. -/
def name? (cs : List Char) : Step (Option String) :=
  match cs with
  | '#' :: _ => .ok (none, cs)
  | c :: r =>
    if c = Text.singleMark then
      match Text.cutAt? Text.singleMark r with
      | some (d :: ds, rest) => .ok (some (String.ofList (d :: ds)), rest)
      | _ => .error cs
    else if isNameChar c then
      .ok (some (String.ofList (cs.takeWhile isNameChar)), cs.dropWhile isNameChar)
    else .error cs
  | [] => .error cs

/-- The text before the first comment that follows a blank. -/
def beforeComment : List Char → List Char
  | [] => []
  | c :: r =>
    if Text.isBlank c && (r.dropWhile Text.isBlank).head? = some '#' then []
    else c :: beforeComment r

/-- The text without the blanks at its end. -/
def trimEnd (cs : List Char) : List Char := (cs.reverse.dropWhile Text.isBlank).reverse

/-- The text between marks, with its escapes read. -/
def quotedValue (escapes : List (Char × Char)) (mark : Char) (cs r : List Char) : Step String :=
  match quoted mark r with
  | some (body, rest) => .ok (String.ofList (unescape escapes body), rest)
  | none => .error cs

/-- The value after the sign. -/
def valueAfterSign (cs : List Char) : Step String :=
  match cs with
  | [] => .ok ("", [])
  | c :: r =>
    if c = Text.singleMark then quotedValue singleEscapes c cs r
    else if c = Text.doubleMark then quotedValue doubleEscapes c cs r
    else .ok (String.ofList (trimEnd (beforeComment (line cs))), cs.drop (line cs).length)

/-- The value, if a sign comes next. -/
def value? (cs : List Char) : Step (Option String) :=
  match cs with
  | '=' :: r => (valueAfterSign (skipInline r)).map fun p => (some p.1, p.2)
  | cs => .ok (none, cs)

/-- The text after a comment, if one comes next. -/
def skipComment (cs : List Char) : List Char :=
  match skipInline cs with
  | '#' :: r => r.dropWhile (· ≠ '\n')
  | _ => cs

/-- The text after the end of the line, which has to come next. -/
def endLine (cs : List Char) : Step Unit :=
  match skipInline cs with
  | [] => .ok ((), [])
  | '\n' :: r => .ok ((), r)
  | _ => .error cs

/-- One binding, or a comment in its place. -/
def one (cs : List Char) : Except (List Char) (Option Binding × List Char) := do
  let (name, cs) ← name? (skipExport cs)
  let (value, cs) ← value? (skipInline cs)
  let ((), cs) ← endLine (skipComment cs)
  .ok (name.map fun name => ⟨name, value⟩, cs)

/-- The bindings of a text, in order.  Every round takes at least one character. -/
def allFrom : Nat → List Char → List Binding
  | 0, _ => []
  | fuel + 1, cs =>
    match cs.dropWhile Text.isBlank with
    | [] => []
    | cs =>
      match one cs with
      | .ok (some b, rest) => b :: allFrom fuel rest
      | .ok (none, rest) => allFrom fuel rest
      | .error stuck => allFrom fuel (afterLine stuck)

/-- The text with every line end as one line feed. -/
def plainLines : List Char → List Char
  | [] => []
  | ['\r'] => ['\n']
  | '\r' :: d :: r => if d = '\n' then '\n' :: plainLines r else '\n' :: plainLines (d :: r)
  | c :: r => c :: plainLines r

/-- The bindings of a text, in order. -/
def all (text : String) : List Binding :=
  let cs := plainLines text.toList
  allFrom (cs.length + 1) cs

end Binding
end PassiveAggressive

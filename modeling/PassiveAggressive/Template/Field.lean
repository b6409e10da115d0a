import PassiveAggressive.Template.Flaw
import PassiveAggressive.Text.Split

/-!
# Fields of a template

A template is cut into the texts and the fields it is made of.  A brace that is
written twice stands for itself.  A field names its argument, may ask for a way to
show it after an exclamation mark, and may lay it out after a colon; the layout may
hold fields of its own.

Reading a piece takes at least one character, so the number of characters bounds the
number of pieces.
-/

namespace PassiveAggressive
namespace Template

/-- A field as it is written. -/
structure Field where
  /-- The argument and the way into it. -/
  name : List Char
  conversion : Option Char
  layout : List Char
  /-- Whether the layout holds fields. -/
  nested : Bool

/-- A piece of a template: a text, and the field after it if there is one. -/
structure Piece where
  text : List Char
  field : Option Field

/-- The opening brace. -/
def opening : Char := Char.ofNat 0x7b

/-- The closing brace. -/
def closing : Char := Char.ofNat 0x7d

/-- A character is a brace. -/
def isBrace (c : Char) : Bool := c = opening || c = closing

/-- The name of a field, the character that ends it, and what follows that. -/
def fieldName : List Char → Except Flaw (List Char × Char × List Char)
  | [] => .error .notClosed
  | c :: r =>
    if c = opening then .error .openedInName
    else if c = closing || c = ':' || c = '!' then .ok ([], c, r)
    else if c = '[' then
      let inside := r.takeWhile (· ≠ ']')
      match fieldName (r.drop inside.length) with
      | .ok (name, stop, rest) => .ok (c :: inside ++ name, stop, rest)
      | .error e => .error e
    else
      match fieldName r with
      | .ok (name, stop, rest) => .ok (c :: name, stop, rest)
      | .error e => .error e
termination_by cs => cs.length
decreasing_by
  all_goals simp only [List.length_cons, List.length_drop]
  all_goals omega

/-- The layout of a field up to its closing brace, whether it holds fields, and what follows.
`depth` counts the braces that are open. -/
def fieldLayout (depth : Nat) (nested : Bool) :
    List Char → Except Flaw (List Char × Bool × List Char)
  | [] => .error .unmatched
  | c :: r =>
    if c = closing && depth = 0 then .ok ([], nested, r)
    else
      let depth := if c = opening then depth + 1 else if c = closing then depth - 1 else depth
      (fieldLayout depth (nested || c = opening) r).map fun p => (c :: p.1, p.2)

/-- The conversion and the layout of a field, the exclamation mark being behind. -/
def fieldEnd (name : List Char) : List Char → Except Flaw (Field × List Char)
  | [] => .error .noConversion
  | [_] => .error .unmatched
  | c :: d :: r =>
    if d = closing then .ok (⟨name, some c, [], false⟩, r)
    else if d = ':' then
      (fieldLayout 0 false r).map fun p => (⟨name, some c, p.1, p.2.1⟩, p.2.2)
    else .error .noColon

/-- A field, its opening brace being behind. -/
def field (cs : List Char) : Except Flaw (Field × List Char) :=
  match fieldName cs with
  | .error e => .error e
  | .ok (name, stop, r) =>
    if stop = closing then .ok (⟨name, none, [], false⟩, r)
    else if stop = '!' then fieldEnd name r
    else (fieldLayout 0 false r).map fun p => (⟨name, none, p.1, p.2.1⟩, p.2.2)

/-- The first piece of a template and what follows it. -/
def piece (cs : List Char) : Except Flaw (Piece × List Char) :=
  let text := cs.takeWhile fun c => !isBrace c
  match cs.dropWhile fun c => !isBrace c with
  | [] => .ok (⟨text, none⟩, [])
  | c :: r =>
    if r.head? = some c then .ok (⟨text ++ [c], none⟩, r.tail)
    else if c = closing then .error .closedOnly
    else if r.isEmpty then .error .openedOnly
    else (field r).map fun p => (⟨text, some p.1⟩, p.2)

/-- The pieces of a template. -/
def piecesFrom : Nat → List Char → Except Flaw (List Piece)
  | 0, _ => .ok []
  | fuel + 1, cs =>
    if cs.isEmpty then .ok []
    else
      match piece cs with
      | .error e => .error e
      | .ok (p, rest) => (piecesFrom fuel rest).map (p :: ·)

/-- The pieces of a template. -/
def pieces (s : String) : Except Flaw (List Piece) := piecesFrom (s.length + 1) s.toList

/-! ## Ways into an argument -/

/-- A step from a value to a part of it. -/
inductive Step where
  | attribute (name : String)
  | item (index : Nat)
  | key (name : String)
  deriving DecidableEq, Repr

/-- The number that a text of digits stands for. -/
def index? (cs : List Char) : Except Flaw (Option Nat) :=
  if cs.isEmpty || !cs.all Text.isDecimal then .ok none
  else
    let n := Text.valueOfDigits (cs.filterMap Text.decimalValue?)
    if 9223372036854775807 < n then .error .tooManyDigits else .ok (some n)

/-- A character that ends the name of an argument or an attribute. -/
def startsStep (c : Char) : Bool := c = '.' || c = '['

/-- The first step in what follows the name of an argument, and the rest. -/
def step : List Char → Except Flaw (Step × List Char)
  | [] => .error .emptyAttribute
  | c :: r =>
    if c = '.' then
      let name := r.takeWhile fun c => !startsStep c
      if name.isEmpty then .error .emptyAttribute
      else .ok (.attribute (String.ofList name), r.drop name.length)
    else if c = '[' then
      match Text.cutAt? ']' r with
      | none => .error .openBracket
      | some (name, rest) =>
        match index? name with
        | .error e => .error e
        | .ok (some n) => .ok (.item n, rest)
        | .ok none =>
          if name.isEmpty then .error .emptyAttribute
          else .ok (.key (String.ofList name), rest)
    else .error .afterBracket

end Template
end PassiveAggressive

import PassiveAggressive.Template.Field
import PassiveAggressive.Template.Layout
import PassiveAggressive.Value.Entries
import PassiveAggressive.Value.Items

/-!
# Filled templates

The fields of a template are filled from left to right.  A field names its argument
by a number, by a name, or not at all; then it takes the next argument that no field
before it took.  Numbered and unnumbered fields do not go together.

The fields inside a layout are filled before the value is laid out, and count with the
others.  Layouts inside layouts may not hold fields again.
-/

namespace PassiveAggressive
namespace Template

/-- How the fields so far named their arguments. -/
inductive Numbering where
  | unknown
  /-- Without numbers; the number of arguments taken. -/
  | automatic (taken : Nat)
  | manual
  deriving DecidableEq, Repr

/-- The arguments of a template. -/
structure Arguments where
  /-- The arguments in order, if there can be any. -/
  positional : Option (List Value)
  named : List (String × Value)

/-- Something filled, and the numbering after it. -/
abbrev Filled (α : Type) := α × Numbering

/-- The argument number of a field whose name has the given number, if it has one. -/
def argumentIndex (numbering : Numbering) (empty : Bool) (number : Option Nat) :
    Except Flaw (Option Nat × Numbering) :=
  if empty then
    match numbering with
    | .unknown => .ok (some 0, .automatic 1)
    | .automatic n => .ok (some n, .automatic (n + 1))
    | .manual => .error .toAutomatic
  else
    match number with
    | none => .ok (none, numbering)
    | some n =>
      match numbering with
      | .automatic _ => .error .toManual
      | _ => .ok (some n, .manual)

/-- The argument that a field names. -/
def Arguments.find (args : Arguments) (name : String) :
    Option Nat → Except TemplateFault Value
  | some i =>
    match args.positional with
    | none => .error (.flaw .positional)
    | some vs =>
      match vs[i]? with
      | some v => .ok v
      | none => .error (.missingArgument i)
  | none =>
    match args.named.lookup name with
    | some v => .ok v
    | none => .error (.missingName name)

/-- The item of a sequence. -/
def itemAt (kind : Kind) (items : List Value) (i : Nat) : Except TemplateFault Value :=
  match items[i]? with
  | some v => .ok v
  | none => .error (.outOfRange kind)

/-- The value under a key of a mapping. -/
def valueUnder (key : Value) (entries : List (Value × Value)) : Except TemplateFault Value :=
  match entries.find? fun e => Key.same e.1 key with
  | some e => .ok e.2
  | none => .error (.missingKey key.literal)

/-- The part of a value that a step leads to. -/
def Step.take (s : Step) (v : Value) : Except TemplateFault Value :=
  match s, v with
  | .attribute "feature_id", .entry id _ => .ok id
  | .attribute "value", .entry _ value => .ok value
  | .attribute name, v => .error (.noAttribute v.kind name)
  | .item i, .dict es => valueUnder (.int i) es
  | .key name, .dict es => valueUnder (.text name) es
  | .item i, v =>
    match v.kind.sequence?, v.items with
    | some k, .ok items => itemAt k items i
    | _, _ => .error (.noItems v.kind)
  | .key _, v =>
    match v.kind.sequence? with
    | some k => .error (.notIndex k)
    | none => .error (.noItems v.kind)

/-- The part of a value that steps lead to.  Every step takes a character. -/
def follow : Nat → List Char → Value → Except TemplateFault Value
  | 0, _, v => .ok v
  | fuel + 1, cs, v =>
    if cs.isEmpty then .ok v
    else do
      let (s, rest) ← (step cs).mapError .flaw
      let v ← s.take v
      follow fuel rest v

/-- The value of a field. -/
def fieldValue (args : Arguments) (numbering : Numbering) (name : List Char) :
    Except TemplateFault (Filled Value) := do
  let first := name.takeWhile fun c => !startsStep c
  let number ← (index? first).mapError .flaw
  let (index, numbering) ← (argumentIndex numbering first.isEmpty number).mapError .flaw
  let v ← args.find (String.ofList first) index
  let v ← follow name.length (name.drop first.length) v
  .ok (v, numbering)

/-- A character as its code point beyond ASCII. -/
def asciiOnly (c : Char) : List Char :=
  if c.toNat < 128 then [c]
  else if c.toNat < 256 then '\\' :: 'x' :: Text.hexPlaces 2 c.toNat
  else if c.toNat < 65536 then '\\' :: 'u' :: Text.hexPlaces 4 c.toNat
  else '\\' :: 'U' :: Text.hexPlaces 8 c.toNat

/-- A value in the way a field asks for. -/
def convert (conversion : Option Char) (v : Value) : Except Flaw Value :=
  match conversion with
  | none => .ok v
  | some 's' => .ok (.text v.display)
  | some 'r' => .ok (.text v.literal)
  | some 'a' => .ok (.text (String.ofList (v.literal.toList.flatMap asciiOnly)))
  | some c => .error (.unknownConversion c)

/-- A way to fill templates, given the numbering before them. -/
abbrev Filler := Numbering → List Char → Except TemplateFault (Filled (List Char))

/-- A field filled; `inner` fills its layout. -/
def fillField (inner : Filler) (args : Arguments) (numbering : Numbering) (f : Field) :
    Except TemplateFault (Filled (List Char)) := do
  let (v, numbering) ← fieldValue args numbering f.name
  let v ← (convert f.conversion v).mapError .flaw
  let (layout, numbering) ←
    if f.nested then inner numbering f.layout else .ok (f.layout, numbering)
  let cs ← layOut v layout
  .ok (cs, numbering)

/-- A template filled piece by piece; every piece takes at least one character. -/
def fillPieces (inner : Filler) (args : Arguments) : Nat → Filler
  | 0, numbering, _ => .ok ([], numbering)
  | fuel + 1, numbering, cs =>
    if cs.isEmpty then .ok ([], numbering)
    else do
      let (p, rest) ← (piece cs).mapError .flaw
      let (filled, numbering) ←
        match p.field with
        | none => .ok ([], numbering)
        | some f => fillField inner args numbering f
      let (more, numbering) ← fillPieces inner args fuel numbering rest
      .ok (p.text ++ filled ++ more, numbering)

/-- A template filled, with fields in layouts down to `depth`. -/
def fillTo (args : Arguments) : Nat → Filler
  | 0, _, _ => .error (.flaw .tooDeep)
  | depth + 1, numbering, cs => fillPieces (fillTo args depth) args (cs.length + 1) numbering cs

/-- The template filled from arguments in order and by name. -/
def fill (positional : List Value) (named : List (String × Value)) (s : String) :
    Except TemplateFault String :=
  (fillTo ⟨some positional, named⟩ 2 .unknown s.toList).map fun p => String.ofList p.1

/-- The template filled from arguments by name alone. -/
def fillNamed (named : List (String × Value)) (s : String) : Except TemplateFault String :=
  (fillTo ⟨none, named⟩ 2 .unknown s.toList).map fun p => String.ofList p.1

end Template
end PassiveAggressive

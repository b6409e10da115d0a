import PassiveAggressive.Value.Entries
import PassiveAggressive.Yaml.Node

/-!
# The value of a document

The tree of a document is read into a value, by the tags of its nodes.  A mapping
keeps its keys in the order in which they first appear, and each key its last value; a
key has to be something that weights could be filed under as well, so no list is one.

A text without a document, or with an empty one, has the value null.

## A mapping in the place of a scalar

A mapping under a scalar's tag stands for the scalar under its main key, if it has
one.
-/

namespace PassiveAggressive
namespace Yaml

/-- The value of a scalar. -/
def scalarValue (tag : Tag) (text : String) : Except DocumentError Value :=
  match tag with
  | .null => .ok .null
  | .bool => (readBool text).map .bool
  | .int => (readInt text).map .int
  | .float => (readFloat text).map .float
  | .timestamp => (readTimestamp text).map .moment
  | .text => .ok (.text text)
  | _ => .error .malformed

namespace Node

mutual

/-- The text of a node that stands for a scalar. -/
def scalarText? : Node → Option String
  | scalar _ text => some text
  | sequence _ _ => none
  | mapping _ entries => mainText? entries

/-- The text under the main key. -/
def mainText? : List (Node × Node) → Option String
  | [] => none
  | (k, v) :: es => if k.tag = .main then scalarText? v else mainText? es

end

mutual

/-- The value of a node. -/
def value : Node → Except DocumentError Value
  | scalar tag text => scalarValue tag text
  | sequence tag items =>
    match tag with
    | .sequence => (values items).map .list
    | .pairs => (pairs items).map .list
    | _ => .error .malformed
  | mapping tag entries =>
    match tag with
    | .mapping => (filed [] entries).map .dict
    | .set => (filed [] entries).map fun es => .set (es.map Prod.fst)
    | tag =>
      match mainText? entries with
      | some text => scalarValue tag text
      | none => .error .malformed

/-- The values of the items of a sequence. -/
def values : List Node → Except DocumentError (List Value)
  | [] => .ok []
  | n :: ns => do
    let first ← value n
    let rest ← values ns
    .ok (first :: rest)

/-- The pairs in a sequence of mappings with one entry each. -/
def pairs : List Node → Except DocumentError (List Value)
  | [] => .ok []
  | mapping _ [(k, v)] :: ns => do
    let k ← value k
    let v ← value v
    let rest ← pairs ns
    .ok (.tuple [k, v] :: rest)
  | _ :: _ => .error .malformed

/-- The entries of a mapping filed one after the other; the main key is a text. -/
def filed (before : List (Value × Value)) :
    List (Node × Node) → Except DocumentError (List (Value × Value))
  | [] => .ok before
  | (k, v) :: es => do
    let key ← if k.tag = .main then .ok (.text ((scalarText? k).getD "")) else value k
    if (Key.check key).toBool then
      let v ← value v
      filed (Value.fileUnder key v before) es
    else .error .malformed

end
end Node

/-- The value of the one document in a text. -/
def read (text : String) : Except DocumentError Value := do
  match ← document? text.toList with
  | none => .ok .null
  | some n => n.value

end Yaml
end PassiveAggressive

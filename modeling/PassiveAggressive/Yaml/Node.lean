import PassiveAggressive.Yaml.Scalar
import PassiveAggressive.Yaml.Token

/-!
# The tree of a document

Tokens are read into a tree of scalars, sequences and mappings, each with its tag.  A
node may be anchored under a name and be repeated by an alias later on; an alias
stands for a copy of the node.  An alias inside the node that it names stands for
nothing, since a tree has no cycles.

An entry under the merge key is replaced by the entries of the mappings it names,
which come before the mapping's own, so that those win.

Every call takes a token or is followed by one that does, and the fuel counts calls
along one branch of the recursion.
-/

namespace PassiveAggressive
namespace Yaml

/-- A node of a document. -/
inductive Node where
  | scalar (tag : Tag) (text : String)
  | sequence (tag : Tag) (items : List Node)
  | mapping (tag : Tag) (entries : List (Node × Node))

namespace Node

/-- The tag of a node. -/
def tag : Node → Tag
  | scalar t _ | sequence t _ | mapping t _ => t

/-- The empty scalar. -/
def empty : Node := scalar .null ""

/-- The entries of a node that is a mapping. -/
def entries? : Node → Option (List (Node × Node))
  | mapping _ es => some es
  | _ => none

/-- The entries that a node under the merge key brings: those of a mapping, or those of the
mappings in a sequence, of which the first come last. -/
def mergedEntries? : Node → Option (List (Node × Node))
  | mapping _ es => some es
  | sequence _ items => (items.mapM entries?).map fun all => all.reverse.flatten
  | scalar _ _ => none

/-- The merged entries and the own entries of a mapping. -/
def splitMerged : List (Node × Node) → Option (List (Node × Node) × List (Node × Node))
  | [] => some ([], [])
  | (k, v) :: es => do
    let (merged, own) ← splitMerged es
    if k.tag = .merge then do
      let first ← v.mergedEntries?
      some (first ++ merged, own)
    else some (merged, (k, v) :: own)

end Node

/-- What is known while a document is read. -/
structure Progress where
  tokens : List Token
  /-- The anchored nodes; one that is not complete yet has no node. -/
  anchors : List (String × Option Node)
  /-- The handles of tags and what they stand for. -/
  handles : List (String × String)

/-- A reader of nodes. -/
abbrev Reader := StateT Progress (Except DocumentError)

namespace Reader

/-- The document is not well formed. -/
def fail {α : Type} : Reader α := fun _ => .error .malformed

/-- The next token. -/
def next : Reader Token := do
  let p ← get
  pure (p.tokens.headD .streamEnd)

/-- The next token is behind. -/
def skip : Reader Unit := modify fun p => { p with tokens := p.tokens.tail }

/-- Whether the next token is the given one, which is then behind. -/
def took (t : Token) : Reader Bool := do
  if (← next) = t then
    skip
    pure true
  else pure false

/-- The next token is one of the given ones. -/
def sees (ts : List Token) : Reader Bool := do
  let t ← next
  pure (ts.contains t)

/-- The beginning of the tags that the format itself defines. -/
def standardBeginning : String := "tag:yaml.org,2002:"

/-- The handles that are known without a directive. -/
def standardHandles : List (String × String) := [("!", "!"), ("!!", standardBeginning)]

/-- The tags with a meaning, by what follows the standard beginning. -/
def standardTags : List (String × Tag) :=
  [("null", .null), ("bool", .bool), ("int", .int), ("float", .float),
    ("timestamp", .timestamp), ("str", .text), ("seq", .sequence), ("map", .mapping),
    ("set", .set), ("omap", .pairs), ("pairs", .pairs), ("merge", .merge), ("value", .main)]

/-- The tag with the given full name. -/
def tagNamed (full : String) : Tag :=
  match Text.afterStart? standardBeginning.toList full.toList with
  | some rest => (standardTags.lookup (String.ofList rest)).getD .unknown
  | none => .unknown

/-- What stands before the content of a node. -/
structure Properties where
  anchor : Option String
  /-- The full name of the tag, if there is one. -/
  tag : Option String

/-- The full name of a tag. -/
def fullTag (handle : Option String) (rest : String) : Reader String := do
  match handle with
  | none => pure rest
  | some h =>
    match (← get).handles.lookup h with
    | some beginning => pure (beginning ++ rest)
    | none => fail

/-- An anchor, if there is one. -/
def anchor? : Reader (Option String) := do
  match ← next with
  | .anchor name =>
    skip
    pure (some name)
  | _ => pure none

/-- A tag, if there is one. -/
def tag? : Reader (Option String) := do
  match ← next with
  | .tag handle rest =>
    skip
    let full ← fullTag handle rest
    pure (some full)
  | _ => pure none

/-- An anchor and a tag, in either order. -/
def properties : Reader Properties := do
  match ← anchor? with
  | some name => pure ⟨some name, ← tag?⟩
  | none =>
    match ← tag? with
    | some tag => pure ⟨← anchor?, some tag⟩
    | none => pure ⟨none, none⟩

/-- Whether a tag says that the node's look decides. -/
def isOpen (tag : Option String) : Bool := tag = none || tag = some "!"

/-- The tag of a scalar. -/
def scalarTag (tag : Option String) (plain : Bool) (text : String) : Tag :=
  match tag with
  | none => if plain then implicitTag text else .text
  | some "!" => implicitTag text
  | some full => tagNamed full

/-- The tag of a collection. -/
def collectionTag (tag : Option String) (otherwise : Tag) : Tag :=
  if isOpen tag then otherwise else tagNamed (tag.getD "")

/-- Keeps a node under its anchor. -/
def keep (anchor : Option String) (node : Option Node) : Reader Unit :=
  match anchor with
  | none => pure ()
  | some name => modify fun p => { p with anchors := (name, node) :: p.anchors }

/-- An anchor is new. -/
def checkAnchor (anchor : Option String) : Reader Unit := do
  match anchor with
  | none => pure ()
  | some name => if ((← get).anchors.lookup name).isSome then fail else pure ()

/-- The node that an alias stands for. -/
def aliased (name : String) : Reader Node := do
  match (← get).anchors.lookup name with
  | some (some node) => pure node
  | some none => pure .empty
  | none => fail

/-- A mapping with its entries merged. -/
def mappingOf (tag : Option String) (entries : List (Node × Node)) : Reader Node :=
  match Node.splitMerged entries with
  | none => fail
  | some (merged, own) => pure (.mapping (collectionTag tag .mapping) (merged ++ own))

/-- The value after a key: a node if there is a value mark and something after it. -/
def valueAfter (read : Reader Node) (ends : List Token) : Reader Node := do
  if ← took .value then
    if ← sees ends then pure .empty else read
  else pure .empty

/-- A key or an item after its mark, which may be left out. -/
def optional (read : Reader Node) (ends : List Token) : Reader Node := do
  if ← sees ends then pure .empty else read

/-- The entries of a mapping in a block. -/
def blockEntries (read : Reader Node) : Nat → Reader (List (Node × Node))
  | 0 => fail
  | fuel + 1 => do
    if ← took .key then
      let ends := [Token.key, .value, .blockEnd]
      let k ← optional read ends
      let v ← valueAfter read ends
      let more ← blockEntries read fuel
      pure ((k, v) :: more)
    else if (← next) = .value then
      let v ← valueAfter read [.key, .value, .blockEnd]
      let more ← blockEntries read fuel
      pure ((.empty, v) :: more)
    else if ← took .blockEnd then pure []
    else fail

/-- The items of a sequence in a block, up to the token that ends it. -/
def blockItems (read : Reader Node) (ends : List Token) : Nat → Reader (List Node)
  | 0 => fail
  | fuel + 1 => do
    if ← took .blockEntry then
      let item ← optional read (.blockEntry :: ends)
      let more ← blockItems read ends fuel
      pure (item :: more)
    else pure []

/-- A comma, unless the collection has just begun. -/
def separator (first : Bool) : Reader Unit := do
  if first then pure ()
  else if ← took .flowEntry then pure ()
  else fail

/-- A single entry in a sequence in brackets. -/
def flowPair (read : Reader Node) : Reader Node := do
  let k ← optional read [.value, .flowEntry, .flowSequenceEnd]
  let v ← valueAfter read [.flowEntry, .flowSequenceEnd]
  mappingOf none [(k, v)]

/-- The items of a sequence in brackets. -/
def flowItems (read : Reader Node) : Bool → Nat → Reader (List Node)
  | _, 0 => fail
  | first, fuel + 1 => do
    if ← took .flowSequenceEnd then pure []
    else
      separator first
      if ← took .key then
        let item ← flowPair read
        let more ← flowItems read false fuel
        pure (item :: more)
      else if ← took .flowSequenceEnd then pure []
      else
        let item ← read
        let more ← flowItems read false fuel
        pure (item :: more)

/-- The entries of a mapping in braces. -/
def flowEntries (read : Reader Node) : Bool → Nat → Reader (List (Node × Node))
  | _, 0 => fail
  | first, fuel + 1 => do
    if ← took .flowMappingEnd then pure []
    else
      separator first
      if ← took .key then
        let k ← optional read [.value, .flowEntry, .flowMappingEnd]
        let v ← valueAfter read [.flowEntry, .flowMappingEnd]
        let more ← flowEntries read false fuel
        pure ((k, v) :: more)
      else if ← took .flowMappingEnd then pure []
      else
        let k ← read
        let more ← flowEntries read false fuel
        pure ((k, .empty) :: more)

/-- The content of a node.  `inside` reads a node that is part of it, given whether blocks may
begin there and whether a sequence may begin without indentation. -/
def content (inside : Bool → Bool → Reader Node) (fuel : Nat) (block indentless : Bool)
    (p : Properties) : Reader Node := do
  match ← next with
  | .scalar text plain =>
    skip
    pure (.scalar (scalarTag p.tag plain text) text)
  | .blockEntry =>
    if indentless then
      let items ← blockItems (inside true false) [.key, .value, .blockEnd] fuel
      pure (.sequence (collectionTag p.tag .sequence) items)
    else absent
  | .flowSequenceStart =>
    skip
    let items ← flowItems (inside false false) true fuel
    pure (.sequence (collectionTag p.tag .sequence) items)
  | .flowMappingStart =>
    skip
    let entries ← flowEntries (inside false false) true fuel
    mappingOf p.tag entries
  | .blockSequenceStart =>
    if block then
      skip
      let items ← blockItems (inside true false) [.blockEnd] fuel
      if ← took .blockEnd then pure (.sequence (collectionTag p.tag .sequence) items) else fail
    else absent
  | .blockMappingStart =>
    if block then
      skip
      let entries ← blockEntries (inside true true) fuel
      mappingOf p.tag entries
    else absent
  | _ => absent
where
  /-- Nothing, which only an anchor or a tag can stand before. -/
  absent : Reader Node :=
    if p.anchor.isSome || p.tag.isSome then pure (.scalar (scalarTag p.tag true "") "") else fail

/-- A node. -/
def node : Nat → Bool → Bool → Reader Node
  | 0, _, _ => fail
  | fuel + 1, block, indentless => do
    match ← next with
    | .alias name =>
      skip
      aliased name
    | _ =>
      let p ← properties
      checkAnchor p.anchor
      keep p.anchor none
      let n ← content (node fuel) fuel block indentless p
      keep p.anchor (some n)
      pure n

/-- The tokens that end a document without content. -/
def documentEnds : List Token := [.documentStart, .documentEnd, .streamEnd]

/-- A directive comes next. -/
def seesDirective : Reader Bool := do
  match ← next with
  | .directive _ => pure true
  | _ => pure false

/-- The directives of a document: the handles they define, and whether the version is given. -/
def directives : Nat → List (String × String) → Bool → Reader (List (String × String))
  | 0, _, _ => fail
  | fuel + 1, handles, versioned => do
    match ← next with
    | .directive (.version major) =>
      skip
      if versioned || major ≠ 1 then fail else directives fuel handles true
    | .directive (.handle h beginning) =>
      skip
      if (handles.lookup h).isSome then fail
      else directives fuel ((h, beginning) :: handles) versioned
    | .directive .other =>
      skip
      directives fuel handles versioned
    | _ => pure (handles ++ standardHandles)

/-- Marks of document ends. -/
def skipEnds : Nat → Reader Unit
  | 0 => pure ()
  | fuel + 1 => do if ← took .documentEnd then skipEnds fuel else pure ()

/-- The content of a document after its mark. -/
def documentContent (fuel : Nat) : Reader Node := do
  if (← sees documentEnds) || (← seesDirective) then pure .empty else node fuel true false

/-- The one document of a text; nothing if there is none. -/
def document (fuel : Nat) : Reader (Option Node) := do
  let marked := (← sees [.documentStart, .streamEnd]) || (← seesDirective)
  let root ←
    if !marked then do
      modify fun p => { p with handles := standardHandles }
      let n ← node fuel true false
      pure (some n)
    else if (← next) = .streamEnd then pure none
    else do
      let handles ← directives fuel [] false
      modify fun p => { p with handles }
      if ← took .documentStart then
        let n ← documentContent fuel
        pure (some n)
      else fail
  skipEnds fuel
  if (← next) = .streamEnd then pure root else fail

end Reader

/-- The tree of the one document in a text; nothing if there is none. -/
def document? (text : List Char) : Except DocumentError (Option Node) := do
  let ts ← tokens text
  let (root, _) ← (Reader.document (2 * ts.length + 2)).run ⟨ts, [], []⟩
  .ok root

end Yaml
end PassiveAggressive

import PassiveAggressive.Yaml.ScalarText

/-!
# Tokens of a document

A document is cut into tokens before its structure is read.  Most tokens are plain to
see, but three things are not written down: where a block begins and ends is a matter
of indentation, and that a scalar was a key shows only at the colon after it.

So the reader remembers where a key may have begun (`Candidate`) and, when the colon
comes, puts the missing tokens in front of it.  A candidate has to lie on the line of
its colon and within 1024 characters of it; one that stands where a key is needed must
get its colon.

## Bounds

Every round of the reader takes at least one character or ends the document, so the
number of characters bounds the rounds.
-/

namespace PassiveAggressive
namespace Yaml

/-- A statement about the document that stands before it. -/
inductive Directive where
  /-- The version of the format. -/
  | version (major : Nat)
  /-- A short handle for the beginning of tags. -/
  | handle (handle beginning : String)
  | other
  deriving DecidableEq, Repr

/-- A token of a document. -/
inductive Token where
  | directive (d : Directive)
  | documentStart
  | documentEnd
  | streamEnd
  | blockSequenceStart
  | blockMappingStart
  | blockEnd
  | flowSequenceStart
  | flowSequenceEnd
  | flowMappingStart
  | flowMappingEnd
  | blockEntry
  | flowEntry
  | key
  | value
  | alias (name : String)
  | anchor (name : String)
  | tag (handle : Option String) (rest : String)
  /-- A scalar, and whether it is written without marks. -/
  | scalar (text : String) (plain : Bool)
  deriving DecidableEq, Repr

/-- A place where a key may have begun. -/
structure Candidate where
  /-- The number of tokens before it. -/
  position : Nat
  /-- A key is needed here. -/
  required : Bool
  index : Nat
  line : Nat
  column : Nat

/-- What the reader of tokens knows. -/
structure Scan where
  cursor : Cursor
  /-- The tokens so far, in order. -/
  tokens : List Token
  /-- The number of open brackets. -/
  flow : Nat
  /-- The column of the innermost block, and those of the blocks around it. -/
  indent : Int
  indents : List Int
  /-- A key may begin here. -/
  keyAllowed : Bool
  /-- The candidates, by the number of brackets open at each. -/
  candidates : List (Nat × Candidate)

/-- A result of reading a token. -/
abbrev Scanned (α : Type) := Except DocumentError α

namespace Scan

/-- The beginning of a text. -/
def start (text : List Char) : Scan := ⟨.start text, [], 0, -1, [], true, []⟩

/-- A token is added at the end. -/
def emit (s : Scan) (t : Token) : Scan := { s with tokens := s.tokens ++ [t] }

/-- A token is put in front of the token at a position. -/
def emitAt (s : Scan) (position : Nat) (t : Token) : Scan :=
  { s with tokens := s.tokens.take position ++ t :: s.tokens.drop position }

/-- The cursor moves. -/
def move (s : Scan) (c : Cursor) : Scan := { s with cursor := c }

/-! ## Candidates for keys -/

/-- Drops the candidates that are out of reach. -/
def dropStale (s : Scan) : Scanned Scan :=
  let stale (k : Candidate) : Bool :=
    k.line ≠ s.cursor.line || 1024 < s.cursor.index - k.index
  if s.candidates.any fun k => stale k.2 && k.2.required then .error .malformed
  else .ok { s with candidates := s.candidates.filter fun k => !stale k.2 }

/-- Drops the candidate inside the brackets that are open. -/
def dropCandidate (s : Scan) : Scanned Scan :=
  match s.candidates.lookup s.flow with
  | none => .ok s
  | some k =>
    if k.required then .error .malformed
    else .ok { s with candidates := s.candidates.filter fun k => k.1 ≠ s.flow }

/-- Remembers that a key may begin here. -/
def noteCandidate (s : Scan) : Scanned Scan :=
  if s.keyAllowed then do
    let required := s.flow = 0 && s.indent = s.cursor.column
    let s ← s.dropCandidate
    let k : Candidate :=
      ⟨s.tokens.length, required, s.cursor.index, s.cursor.line, s.cursor.column⟩
    .ok { s with candidates := s.candidates ++ [(s.flow, k)] }
  else .ok s

/-! ## Blocks -/

/-- Ends the blocks that are indented further than `column`. -/
def closeFrom (column : Int) (indent : Int) (tokens : List Token) :
    List Int → Int × List Int × List Token
  | [] => (indent, [], tokens)
  | outer :: outers =>
    if column < indent then closeFrom column outer (tokens ++ [.blockEnd]) outers
    else (indent, outer :: outers, tokens)

/-- Ends the blocks that do not reach to `column`; brackets keep them open. -/
def closeBlocks (s : Scan) (column : Int) : Scan :=
  if s.flow ≠ 0 then s
  else
    let (indent, indents, tokens) := closeFrom column s.indent s.tokens s.indents
    { s with indent, indents, tokens }

/-- Whether a block begins at a column, and the state inside it. -/
def openBlock (s : Scan) (column : Int) : Bool × Scan :=
  if s.indent < column then (true, { s with indents := s.indent :: s.indents, indent := column })
  else (false, s)

/-- A block of the given kind begins here if the indentation says so; brackets have no blocks. -/
def openHere (s : Scan) (t : Token) : Scanned Scan :=
  if s.flow ≠ 0 then .ok s
  else if !s.keyAllowed then .error .malformed
  else
    let (opens, s) := s.openBlock s.cursor.column
    .ok (if opens then s.emit t else s)

/-! ## Single tokens -/

/-- Ends all blocks before a mark that ends the document. -/
def endBlocks (s : Scan) : Scanned Scan := do
  let s ← (s.closeBlocks (-1)).dropCandidate
  .ok { s with keyAllowed := false }

/-- A token of the given number of characters. -/
def punctuation (s : Scan) (t : Token) (length : Nat) : Scan :=
  (s.move (s.cursor.forward length)).emit t

/-- An opening bracket. -/
def openBracket (s : Scan) (t : Token) : Scanned Scan := do
  let s ← s.noteCandidate
  .ok ({ s with flow := s.flow + 1, keyAllowed := true }.punctuation t 1)

/-- A closing bracket. -/
def closeBracket (s : Scan) (t : Token) : Scanned Scan := do
  let s ← s.dropCandidate
  .ok ({ s with flow := s.flow - 1, keyAllowed := false }.punctuation t 1)

/-- A comma inside brackets. -/
def comma (s : Scan) : Scanned Scan := do
  let s ← { s with keyAllowed := true }.dropCandidate
  .ok (s.punctuation .flowEntry 1)

/-- The dash before an item. -/
def dash (s : Scan) : Scanned Scan := do
  let s ← s.openHere .blockSequenceStart
  let s ← { s with keyAllowed := true }.dropCandidate
  .ok (s.punctuation .blockEntry 1)

/-- The question mark before a key. -/
def question (s : Scan) : Scanned Scan := do
  let s ← s.openHere .blockMappingStart
  let s ← { s with keyAllowed := s.flow = 0 }.dropCandidate
  .ok (s.punctuation .key 1)

/-- The colon after a candidate, which was a key. -/
def colonAfter (s : Scan) (k : Candidate) : Scan :=
  let s := { s with candidates := s.candidates.filter fun k => k.1 ≠ s.flow }
  let s := s.emitAt k.position .key
  let (opens, s) := if s.flow = 0 then s.openBlock k.column else (false, s)
  let s := if opens then s.emitAt k.position .blockMappingStart else s
  { s with keyAllowed := false }.punctuation .value 1

/-- The colon before a value. -/
def colon (s : Scan) : Scanned Scan :=
  match s.candidates.lookup s.flow with
  | some k => .ok (s.colonAfter k)
  | none => do
    let s ← s.openHere .blockMappingStart
    let s ← { s with keyAllowed := s.flow = 0 }.dropCandidate
    .ok (s.punctuation .value 1)

end Scan

/-! ## Names, tags and directives -/

/-- A character of a name. -/
def isNameChar (c : Char) : Bool := c.isAlphanum || c = '-' || c = '_'

/-- A name, which must not be empty. -/
def name (c : Cursor) : Scanned (String × Cursor) :=
  let n := c.run isNameChar
  if n.isEmpty then .error .malformed else .ok (String.ofList n, c.skip isNameChar)

/-- A character that may follow the name of an anchor. -/
def endsAnchor (c : Char) : Bool := isGap c || "?:,]\x7d%@\x60".toList.contains c

/-- The name of an anchor or an alias, the cursor standing on its mark. -/
def anchorName (c : Cursor) : Scanned (String × Cursor) := do
  let (n, c) ← name c.step
  if endsAnchor c.next then .ok (n, c) else .error .malformed

/-- A character of a tag, percent signs apart. -/
def isTagChar (c : Char) : Bool :=
  c.isAlphanum || "-;/?:@&=+$,_.!~*()[]".toList.contains c || c = apostrophe

/-- The bytes written as percent signs with two hexadecimal digits each. -/
def percentBytes : Nat → Cursor → Scanned (List UInt8 × Cursor)
  | 0, c => .ok ([], c)
  | fuel + 1, c =>
    if c.next ≠ '%' then .ok ([], c)
    else
      match hexNumber? (c.step.rest.take 2) with
      | some code =>
        if c.step.rest.length < 2 then .error .malformed
        else do
          let (more, c) ← percentBytes fuel (c.forward 3)
          .ok (UInt8.ofNat code :: more, c)
      | none => .error .malformed

/-- The characters of a tag. -/
def tagChars : Nat → Cursor → Scanned (List Char × Cursor)
  | 0, c => .ok ([], c)
  | fuel + 1, c =>
    if c.next = '%' then do
      let (bytes, c) ← percentBytes (c.rest.length + 1) c
      match String.fromUTF8? ⟨bytes.toArray⟩ with
      | none => .error .malformed
      | some s => do
        let (more, c) ← tagChars fuel c
        .ok (s.toList ++ more, c)
    else if isTagChar c.next then do
      let (more, c') ← tagChars fuel c.step
      .ok (c.next :: more, c')
    else .ok ([], c)

/-- The characters of a tag, of which there must be some. -/
def tagText (c : Cursor) : Scanned (String × Cursor) := do
  let (cs, c) ← tagChars (c.rest.length + 1) c
  if cs.isEmpty then .error .malformed else .ok (String.ofList cs, c)

/-- A handle: one exclamation mark, or a name between two. -/
def tagHandle (c : Cursor) : Scanned (String × Cursor) :=
  if c.next ≠ '!' then .error .malformed
  else if c.peek 1 = ' ' then .ok ("!", c.step)
  else
    let n := c.step.run isNameChar
    let c := c.step.skip isNameChar
    if c.next = '!' then .ok ("!" ++ String.ofList n ++ "!", c.step) else .error .malformed

/-- The characters after an exclamation mark show that a handle begins with it. -/
def usesHandle (c : Cursor) : Bool :=
  ((c.step.rest.takeWhile fun ch => !isSpaceOrEnd ch).contains '!')

/-- A tag, the cursor standing on its exclamation mark. -/
def tagToken (c : Cursor) : Scanned (Token × Cursor) := do
  let (handle, rest, c) ←
    if c.peek 1 = '<' then do
      let (rest, c) ← tagText (c.forward 2)
      if c.next = '>' then .ok (none, rest, c.step) else .error .malformed
    else if isGap (c.peek 1) then .ok (none, "!", c.step)
    else if usesHandle c then do
      let (handle, c) ← tagHandle c
      let (rest, c) ← tagText c
      .ok (some handle, rest, c)
    else do
      let (rest, c) ← tagText c.step
      .ok (some "!", rest, c)
  if isSpaceOrEnd c.next then .ok (.tag handle rest, c) else .error .malformed

/-- A whole number in a directive. -/
def directiveNumber (c : Cursor) : Scanned (Nat × Cursor) :=
  let ds := c.run Number.isAsciiDigit
  if ds.isEmpty then .error .malformed
  else .ok (Text.valueOfDigits (ds.map fun d => d.toNat - 48), c.skip Number.isAsciiDigit)

/-- What a directive with the given name says. -/
def directiveBody (n : String) (c : Cursor) : Scanned (Directive × Cursor) :=
  if n = "YAML" then do
    let (major, c) ← directiveNumber c.skipSpaces
    if c.next ≠ '.' then .error .malformed
    let (_, c) ← directiveNumber c.step
    if isSpaceOrEnd c.next then .ok (.version major, c) else .error .malformed
  else if n = "TAG" then do
    let (handle, c) ← tagHandle c.skipSpaces
    if c.next ≠ ' ' then .error .malformed
    let (beginning, c) ← tagText c.skipSpaces
    if isSpaceOrEnd c.next then .ok (.handle handle beginning, c) else .error .malformed
  else .ok (.other, c.skip fun ch => !isBreakOrEnd ch)

/-- A directive, the cursor standing on its percent sign. -/
def directive (c : Cursor) : Scanned (Directive × Cursor) := do
  let (n, c) ← name c.step
  if !isSpaceOrEnd c.next then .error .malformed
  let (d, c) ← directiveBody n c
  let c := c.skipSpaces.skipComment
  if isBreakOrEnd c.next then .ok (d, c.lineBreak.2) else .error .malformed

namespace Scan

/-- An anchor or an alias. -/
def named (s : Scan) (token : String → Token) : Scanned Scan := do
  let s ← s.noteCandidate
  let (n, c) ← anchorName s.cursor
  .ok ({ s with keyAllowed := false }.move c |>.emit (token n))

/-- A tag. -/
def tagged (s : Scan) : Scanned Scan := do
  let s ← s.noteCandidate
  let (t, c) ← tagToken s.cursor
  .ok ({ s with keyAllowed := false }.move c |>.emit t)

/-- A block scalar. -/
def block (s : Scan) (folded : Bool) : Scanned Scan := do
  let s ← { s with keyAllowed := true }.dropCandidate
  let (text, c) ← blockScalar folded s.indent s.cursor
  .ok (s.move c |>.emit (.scalar (String.ofList text) false))

/-- A quoted scalar. -/
def quoted (s : Scan) (double : Bool) : Scanned Scan := do
  let s ← s.noteCandidate
  let (text, c) ← quotedScalar double s.cursor
  .ok ({ s with keyAllowed := false }.move c |>.emit (.scalar (String.ofList text) false))

/-- A plain scalar. -/
def plain (s : Scan) : Scanned Scan := do
  let s ← s.noteCandidate
  let (text, leftLine, c) := plainScalar (s.flow ≠ 0) s.indent s.cursor
  .ok ({ s with keyAllowed := leftLine }.move c |>.emit (.scalar (String.ofList text) true))

/-- A plain scalar may begin with the next character. -/
def startsPlain (s : Scan) : Bool :=
  let ch := s.cursor.next
  let isMark := isGap ch || "-?:,[]\x7b\x7d#&*!|>%@\x60".toList.contains ch || ch = apostrophe ||
    ch = quotation
  !isMark || (!isGap (s.cursor.peek 1) && (ch = '-' || (s.flow = 0 && (ch = '?' || ch = ':'))))

/-- The state before the next token: spaces, comments and line breaks are behind it. -/
def toNext : Nat → Scan → Scan
  | 0, s => s
  | fuel + 1, s =>
    let c := s.cursor.skipSpaces.skipComment
    if isBreak c.next then
      let s := if s.flow = 0 then { s with keyAllowed := true } else s
      toNext fuel (s.move c.lineBreak.2)
    else s.move c

/-- A directive before a document. -/
def directiveLine (s : Scan) : Scanned Scan := do
  let s ← s.endBlocks
  let (d, c) ← directive s.cursor
  .ok (s.move c |>.emit (.directive d))

/-- A mark between documents. -/
def documentMark (s : Scan) (t : Token) : Scanned Scan := do
  let s ← s.endBlocks
  .ok (s.punctuation t 3)

/-- One token, given its first character. -/
def token (s : Scan) (ch : Char) : Scanned Scan :=
  let c := s.cursor
  if ch = '%' && c.column = 0 then s.directiveLine
  else if c.column = 0 && c.atMarker '-' then s.documentMark .documentStart
  else if c.column = 0 && c.atMarker '.' then s.documentMark .documentEnd
  else if ch = '[' then s.openBracket .flowSequenceStart
  else if ch.toNat = 0x7b then s.openBracket .flowMappingStart
  else if ch = ']' then s.closeBracket .flowSequenceEnd
  else if ch.toNat = 0x7d then s.closeBracket .flowMappingEnd
  else if ch = ',' then s.comma
  else if ch = '-' && isGap (c.peek 1) then s.dash
  else if ch = '?' && (s.flow ≠ 0 || isGap (c.peek 1)) then s.question
  else if ch = ':' && (s.flow ≠ 0 || isGap (c.peek 1)) then s.colon
  else if ch = '*' then s.named .alias
  else if ch = '&' then s.named .anchor
  else if ch = '!' then s.tagged
  else if ch = '|' && s.flow = 0 then s.block false
  else if ch = '>' && s.flow = 0 then s.block true
  else if ch = apostrophe then s.quoted false
  else if ch = quotation then s.quoted true
  else if s.startsPlain then s.plain
  else .error .malformed

/-- The rest of the tokens. -/
def rest : Nat → Scan → Scanned (List Token)
  | 0, _ => .error .malformed
  | fuel + 1, s => do
    let s ← (toNext (s.cursor.rest.length + 1) s).dropStale
    let s := s.closeBlocks s.cursor.column
    if s.cursor.next = Cursor.stop then
      let s ← s.endBlocks
      .ok (s.tokens ++ [.streamEnd])
    else
      let s ← s.token s.cursor.next
      rest fuel s

end Scan

/-- A character that a document may hold. -/
def isAllowed (c : Char) : Bool :=
  let n := c.toNat
  n = 9 || n = 10 || n = 13 || (32 ≤ n && n ≤ 126) || n = 0x85 || (0xA0 ≤ n && n ≤ 0xFFFD) ||
    0x10000 ≤ n

/-- The tokens of a text. -/
def tokens (text : List Char) : Scanned (List Token) :=
  if text.all isAllowed then
    let s := Scan.start text
    let s := if s.cursor.next = Cursor.mark then s.move s.cursor.step else s
    s.rest (text.length + 1)
  else .error .malformed

end Yaml
end PassiveAggressive

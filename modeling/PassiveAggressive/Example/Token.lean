import PassiveAggressive.Learner.Weights
import PassiveAggressive.Number.Refusal
import PassiveAggressive.Value.Items
import PassiveAggressive.Value.Literal

/-!
# Feature tokens

A feature is written as `name:value`, or as `name` alone where the value is one.  Only
the first colon counts, and blanks around the token are not part of it.  A token may
also be given as data: a whole number is an id with the value one, and a pair is an
id and a value.

A name made of digits can be read as a whole number instead.  Characters that look
like digits and are none, such as a superscript, are offered to the reader of whole
numbers as well, which refuses them; that refusal is no complaint about the token
(`TokenFault.isComplaint`).
-/

namespace PassiveAggressive

/-- Why a token is no feature. -/
inductive TokenFault where
  /-- A value of this kind cannot be a token. -/
  | unsupported (token : Value)
  /-- The token has no name. -/
  | nameless (token : Value)
  /-- What stands for the value is no number. -/
  | unreadable (token : Value)
  /-- The name consists of digit-like characters and is no whole number. -/
  | badInteger (e : Number.IntegerFault)
  | fault (f : Fault)

namespace TokenFault

/-- Whether the fault is a complaint about the token. -/
def isComplaint : TokenFault → Bool
  | unsupported _ | nameless _ | unreadable _ => true
  | badInteger _ | fault _ => false

/-- The wording of the fault, which quotes the token as it was given. -/
def message : TokenFault → String
  | unsupported t => "Unsupported feature token: " ++ t.literal
  | nameless t => "Invalid feature token: " ++ t.literal
  | unreadable t => "Invalid feature value in token " ++ t.literal
  | badInteger e => e.message
  | fault f => f.message

end TokenFault

/-- The value a feature has where none is written. -/
def unitValue : Float := Number.ofInt 1

/-- A value as a double; `none` if it has none. -/
def Value.toFloat? (v : Value) : Except Fault (Option Float) :=
  match v with
  | .float x => .ok (some x)
  | .bool b => .ok (some (Number.ofInt (if b then 1 else 0)))
  | .int n =>
    let x := Number.ofInt n
    if x.isInf then .error .tooLarge else .ok (some x)
  | v => .ok (v.text?.bind Number.float?)

namespace Token

/-- The value of a feature, as the token `token` gives it. -/
def readValue (token given : Value) : Except TokenFault Value :=
  match given.toFloat? with
  | .ok (some x) => .ok (.float x)
  | .ok none => .error (.unreadable token)
  | .error f => .error (.fault f)

/-- The id for a name. -/
def readName (intIds : Bool) (name : String) : Except TokenFault Value :=
  if intIds && Text.isAllDigits name then
    match Number.natural name with
    | .ok n => .ok (.int n)
    | .error e => .error (.badInteger e)
  else .ok (.text name)

/-- The name of a token and what follows the first colon, if there is one. -/
def cutName (text : List Char) : String × Option String :=
  match Text.cutAt? ':' text with
  | some (name, value) => (String.ofList name, some (String.ofList value))
  | none => (String.ofList text, none)

/-- A token that is a text. -/
def readText (intIds : Bool) (token : Value) (s : String) :
    Except TokenFault (Feature Value Value) := do
  let (name, value) := cutName (Text.stripChars s.toList)
  if name.isEmpty then .error (.nameless token)
  let value ←
    match value with
    | some v => readValue token (.text v)
    | none => .ok (.float unitValue)
  let id ← readName intIds name
  .ok ⟨id, value⟩

/-- A token that is a sequence, which has to be a pair. -/
def readPair (token : Value) : List Value → Except TokenFault (Feature Value Value)
  | [id, given] => (readValue token given).map fun value => ⟨id, value⟩
  | _ => .error (.unsupported token)

/-- The feature that a token stands for. -/
def read (intIds : Bool) (token : Value) : Except TokenFault (Feature Value Value) :=
  match token with
  | .entry id value => .ok ⟨id, value⟩
  | .tuple items | .list items => readPair token items
  | .int n => .ok ⟨.int n, .float unitValue⟩
  | t =>
    match t.text? with
    | some s => readText intIds token s
    | none => .error (.unsupported token)

/-- The features that a list of tokens stands for; the first fault ends the reading. -/
def readAll (intIds : Bool) (tokens : List Value) :
    Except TokenFault (List (Feature Value Value)) :=
  tokens.mapM (read intIds)

/-- The features that the tokens in a value stand for. -/
def readFrom (intIds : Bool) (v : Value) : Except TokenFault (List (Feature Value Value)) := do
  let tokens ← v.items.mapError .fault
  readAll intIds tokens

end Token
end PassiveAggressive

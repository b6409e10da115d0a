import PassiveAggressive.Environment.Binding
import PassiveAggressive.Observation.Named

/-!
# Variables

The variables of the environment, and how a file of bindings adds to them.  A
variable that is set already stays as it is, even if it is set to nothing; so the
environment wins over the file.

A value may refer to another variable: `${NAME}` stands for its value, and
`${NAME:-text}` for the text if there is no such variable.  The environment is asked
before the bindings further up.
-/

namespace PassiveAggressive

/-- The variables of the environment. -/
abbrev Variables := Named String

namespace Variables

/-- A reference, the characters that open it being behind: the name, the text to use where there is
no such variable, and the text after the reference. -/
def reference? (cs : List Char) : Option (String × String × List Char) :=
  let isNameChar (c : Char) : Bool := c.toNat ≠ 0x7d && c ≠ ':'
  let name := String.ofList (cs.takeWhile isNameChar)
  match cs.dropWhile isNameChar with
  | ':' :: '-' :: r =>
    match Text.cutAt? (Char.ofNat 0x7d) r with
    | some (otherwise, rest) => some (name, String.ofList otherwise, rest)
    | none => none
  | ':' :: _ => none
  | _ :: rest => some (name, "", rest)
  | [] => none

/-- The text with its references replaced; `find` gives the value of a name.  Every round takes at
least one character. -/
def expandFrom (find : String → Option String) : Nat → List Char → List Char
  | 0, _ => []
  | _ + 1, [] => []
  | fuel + 1, c :: cs =>
    let opened := if c = '$' then Text.afterStart? [Char.ofNat 0x7b] cs else none
    match opened.bind reference? with
    | some (name, otherwise, rest) =>
      ((find name).getD otherwise).toList ++ expandFrom find fuel rest
    | none => c :: expandFrom find fuel cs

/-- The text with its references replaced. -/
def expand (find : String → Option String) (s : String) : String :=
  String.ofList (expandFrom find (s.length + 1) s.toList)

/-- The value that a reference stands for: a variable, or else a binding further up, which may
have no value. -/
def find (v : Variables) (before : Named (Option String)) (name : String) : Option String :=
  match v.get? name with
  | some value => some value
  | none => (before.get? name).map fun value => value.getD ""

/-- The bindings with their references replaced; the last binding of a name counts. -/
def resolve (v : Variables) (bindings : List Binding) : Named (Option String) :=
  bindings.foldl
    (fun before b => before.put b.name (b.value.map (expand (v.find before)))) .empty

/-- Why a variable cannot be set. -/
inductive SettingFault where
  /-- The name holds the sign that ends names. -/
  | illegalName
  | nullCharacter
  deriving DecidableEq, Repr

/-- The wording of the fault. -/
def SettingFault.message : SettingFault → String
  | illegalName => "illegal environment variable name"
  | nullCharacter => "embedded null byte"

/-- Sets a variable that is not set. -/
def set (v : Variables) (name value : String) : Except SettingFault Variables :=
  let isNull (c : Char) : Bool := c.toNat = 0
  if name.toList.any isNull || value.toList.any isNull then .error .nullCharacter
  else if name.toList.contains '=' then .error .illegalName
  else .ok (v.put name value)

/-- Sets the variables among the bindings that have a value and are not set. -/
def setMissing (v : Variables) : List (String × Option String) → Except SettingFault Variables
  | [] => .ok v
  | (_, none) :: bs => setMissing v bs
  | (name, some value) :: bs =>
    if v.has name then setMissing v bs
    else do
      let v ← v.set name value
      setMissing v bs

/-- The variables with those added that a file of bindings sets. -/
def load (v : Variables) (text : String) : Except SettingFault Variables :=
  v.setMissing (v.resolve (Binding.all text)).entries

end Variables
end PassiveAggressive

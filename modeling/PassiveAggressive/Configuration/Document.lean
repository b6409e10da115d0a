import PassiveAggressive.Configuration.Sections
import PassiveAggressive.Environment.Variables
import PassiveAggressive.Files
import PassiveAggressive.Value.Items
import PassiveAggressive.Yaml.Content

/-!
# The configuration

The configuration is a document with three sections, any of which may be missing.  A
document without a value configures nothing.

The learner's settings come from three places.  A variable of the environment wins
over the document, and the document over the defaults; the command line, which comes
on top of all, is not this module's concern.

## What comes first

Many things can be wrong with a configuration at once.  The document has to be read
and to be a mapping, and its section on the learner to hold entries, before anything
is checked.  An unknown variant then ends the check at once, whatever else there is;
all other findings are gathered, in the order log, learner, table.
-/

namespace PassiveAggressive

/-- Everything that can be configured. -/
structure Configuration where
  log : LogSettings
  learner : Settings Float
  table : TableLayout

/-- Why there is no configuration. -/
inductive ConfigurationFault where
  | binding (e : Variables.SettingFault)
  | missingFile (path : String)
  | unreadable (e : FileFault)
  | document (e : Yaml.DocumentError)
  /-- The document has a value and is no mapping. -/
  | notMapping (kind : Kind)
  /-- What should be an entry does not hold values. -/
  | notEntry (index : Nat)
  /-- What should be an entry holds more or fewer than two values. -/
  | notPair (index length : Nat)
  | fault (f : Fault)
  /-- The name of a section is not a text. -/
  | nameNotText
  | rejected (r : Rejection)

namespace Configuration

/-- The configuration where nothing is configured. -/
def default : Configuration := ⟨.default, .default, .default⟩

/-- The name of the configuration's model in findings. -/
def model : String := "AppConfig"

/-! ## The learner's section -/

/-- The entries in the items of a sequence of pairs, from `index` on, filed one after the other. -/
def pairEntries (index : Nat) (before : List (Value × Value)) :
    List Value → Except ConfigurationFault (List (Value × Value))
  | [] => .ok before
  | v :: vs =>
    match v.items with
    | .error _ => .error (.notEntry index)
    | .ok [key, given] =>
      match Key.check key with
      | .error f => .error (.fault f)
      | .ok () => pairEntries (index + 1) (Value.fileUnder key given before) vs
    | .ok parts => .error (.notPair index parts.length)

/-- The entries that a value holds: those of a mapping, or the pairs in a sequence; a value that is
empty, zero or false holds none. -/
def entries (v : Value) : Except ConfigurationFault (List (Value × Value)) :=
  match v with
  | .dict es => .ok es
  | v =>
    if v.isTrue then
      match v.items with
      | .ok vs => pairEntries 0 [] vs
      | .error f => .error (.fault f)
    else .ok []

/-- The variables that set an entry of the learner's section. -/
def overrides : List (String × String) :=
  [("PA_VARIANT", "variant"), ("PA_AGGRESSIVENESS", "aggressiveness"), ("PA_EPSILON", "epsilon")]

/-- The entries with those that the environment sets; an empty variable sets nothing. -/
def override (env : Variables) (es : List (Value × Value)) : List (Value × Value) :=
  overrides.foldl
    (fun es o =>
      match env.get? o.1 with
      | some value => if value = "" then es else Value.fileUnder (.text o.2) (.text value) es
      | none => es)
    es

/-! ## The document -/

/-- A section read by `read`, or the default where there is none. -/
def section_ {α : Type} (top : Section) (name model : String) (read : Section → Checked α)
    (otherwise : α) : Checked α :=
  match top.get? name with
  | none => .ok otherwise
  | some (.dict es) => (read (.ofEntries es)).within name
  | some given => .error [⟨[name], .notSection model, given⟩]

/-- The configuration in the sections of a document, the learner's section being given apart. -/
def ofSections (top learner : Section) : Except Rejection Configuration :=
  match Settings.variantOf learner with
  | .error e => .error (.unknownVariant e)
  | .ok variant =>
    (((Checked.apply (.ok mk)
      (section_ top "log" LogSettings.model LogSettings.ofSection .default)).apply
      ((Settings.ofSection variant learner).within "training")).apply
      (section_ top "dataset" TableLayout.model TableLayout.ofSection .default)).mapError .findings

/-- The configuration in the entries of a document. -/
def ofEntries (env : Variables) (es : List (Value × Value)) :
    Except ConfigurationFault Configuration := do
  let top := Section.ofEntries es
  let learner ← entries ((top.get? "training").getD .null)
  if es.any fun e => e.1.text?.isNone then .error .nameNotText
  (ofSections top (.ofEntries (override env learner))).mapError .rejected

/-- The configuration in a document. -/
def ofDocument (env : Variables) (doc : Value) : Except ConfigurationFault Configuration :=
  match doc with
  | .dict es => ofEntries env es
  | doc => if doc.isTrue then .error (.notMapping doc.kind) else ofEntries env []

/-- The document that is used where no other is named. -/
def packaged : Value :=
  .dict [
    (.text "log", .dict [(.text "dir", .text "logs"), (.text "rotation", .text "1 day"),
      (.text "retention", .text "30 days"), (.text "level", .text "INFO")]),
    (.text "training", .dict [(.text "variant", .text "PA1"),
      (.text "epsilon", .float Settings.defaultEpsilon)]),
    (.text "dataset", .dict [(.text "features_column", .text "features"),
      (.text "target_column", .text "target"), (.text "delimiter", .text " "),
      (.text "int_ids", .bool false), (.text "drop_invalid", .bool true)])]

/-- The document in the file at a path, or the packaged one. -/
def document (w : Files) (path : Option String) : Except ConfigurationFault Value :=
  match path with
  | none => .ok packaged
  | some p =>
    if !w.hasWritten p then .error (.missingFile p)
    else
      match w.read (.ofText p) with
      | .error (.isFolder _) => .error (.unreadable (.isFolder p))
      | .error e => .error (.unreadable e)
      | .ok text => (Yaml.read text).mapError .document

/-- The configuration in the file at a path, or the packaged one, in an environment to which a file
of bindings may add. -/
def load (env : Variables) (bindings : Option String) (w : Files) (path : Option String) :
    Except ConfigurationFault Configuration := do
  let env ←
    match bindings with
    | none => .ok env
    | some text => (env.load text).mapError .binding
  let doc ← document w path
  ofDocument env doc

end Configuration

/-! ## Wording -/

/-- At most fifty bytes of a text: what is longer keeps its two ends. -/
def shortened (s : String) : String :=
  if s.utf8ByteSize ≤ 50 then s
  else
    let front := fitting 25 s.toList
    let back := (fitting 24 s.toList.reverse).reverse
    String.ofList (front ++ ['.', '.', '.'] ++ back)
where
  /-- The longest front of at most `room` bytes. -/
  fitting (room : Nat) : List Char → List Char
    | [] => []
    | c :: cs => if c.utf8Size ≤ room then c :: fitting (room - c.utf8Size) cs else []

/-- The wording of a finding. -/
def Finding.message (f : Finding) : String :=
  Text.joinWith "." f.path ++ "\n  " ++ f.complaint.message ++ " [type=" ++ f.complaint.name ++
    ", input_value=" ++ shortened f.given.literal ++ ", input_type=" ++ f.given.kind.shortName ++
    "]"

/-- The wording of the findings in what is to be a `model`. -/
def findingsMessage (model : String) (fs : List Finding) : String :=
  Text.joinWith "\n" ((Number.showNat fs.length ++ " validation error" ++
    (if fs.length = 1 then "" else "s") ++ " for " ++ model) :: fs.map Finding.message)

/-- The wording of the rejection of a `model`. -/
def Rejection.message (model : String) : Rejection → String
  | unknownVariant e => e.message
  | findings fs => findingsMessage model fs

/-- The wording of the fault. -/
def ConfigurationFault.message : ConfigurationFault → String
  | binding e => e.message
  | missingFile p => "Config file not found: " ++ p
  | unreadable e => e.message
  | document e => e.message
  | notMapping k => "'" ++ k.name ++ "' object has no attribute 'get'"
  | notEntry i =>
    "cannot convert dictionary update sequence element #" ++ Number.showNat i ++ " to a sequence"
  | notPair i n =>
    "dictionary update sequence element #" ++ Number.showNat i ++ " has length " ++
      Number.showNat n ++ "; 2 is required"
  | fault f => f.message
  | nameNotText => "keywords must be strings"
  | rejected r => r.message Configuration.model

end PassiveAggressive

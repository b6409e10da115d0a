import PassiveAggressive.Files
import PassiveAggressive.Number.Numeral

/-!
# The command line

There are three commands: `version`, `train` and `predict`.  A command takes its
arguments in order; options may stand anywhere between them.  An option is a dash and a
letter or two dashes and a word, and its value is the next word, whatever that looks
like.  The value may also follow a letter directly, or a word after an equals sign.
After two dashes alone everything is an argument.  Of an option that is given twice the
last value counts.

A command line that makes no sense is no command; there is nothing to say about it
that another part of the program could use.
-/

namespace PassiveAggressive
namespace Command

/-- What an option sets. -/
inductive Setting where
  | variant
  | aggressiveness
  | epsilon
  | config
  deriving DecidableEq, Repr

/-- The options of a command. -/
structure Options where
  letters : List (Char × Setting)
  words : List (String × Setting)

/-- The words of a command line, sorted out. -/
structure Sorted where
  arguments : List String
  /-- The settings in the order in which they are given. -/
  settings : List (Setting × String)
  deriving DecidableEq, Repr

/-- Nothing given. -/
def Sorted.nothing : Sorted := ⟨[], []⟩

/-- One more argument in front. -/
def Sorted.argument (w : String) (s : Sorted) : Sorted := { s with arguments := w :: s.arguments }

/-- One more setting in front. -/
def Sorted.setting (k : Setting) (v : String) (s : Sorted) : Sorted :=
  { s with settings := (k, v) :: s.settings }

/-- The last value given for a setting. -/
def Sorted.get? (s : Sorted) (k : Setting) : Option String := s.settings.reverse.lookup k

/-- A word that begins with a dash and goes on. -/
def isOption (w : String) : Bool :=
  match w.toList with
  | '-' :: _ :: _ => true
  | _ => false

/-- The name of a word option and the value after its equals sign. -/
def cutOption (w : String) : String × Option String :=
  match Text.cutAt? '=' w.toList with
  | some (name, value) => (String.ofList name, some (String.ofList value))
  | none => (w, none)

/-- What an option sets, and its value if that is part of the word; nothing if there is no such
option. -/
def Options.read (o : Options) (w : String) : Option (Setting × Option String) :=
  let (name, value) := cutOption w
  match o.words.lookup name with
  | some k => some (k, value)
  | none =>
    match w.toList with
    | '-' :: '-' :: _ => none
    | '-' :: c :: r =>
      (o.letters.lookup c).map fun k => (k, if r.isEmpty then none else some (String.ofList r))
    | _ => none

/-- The words sorted out; nothing if an option is unknown or its value is missing. -/
def Options.sort (o : Options) : List String → Option Sorted
  | [] => some .nothing
  | [w] =>
    if w = "--" then some .nothing
    else if isOption w then
      match o.read w with
      | some (k, some v) => some (Sorted.nothing.setting k v)
      | _ => none
    else some (Sorted.nothing.argument w)
  | w :: v :: rest =>
    if w = "--" then some ⟨v :: rest, []⟩
    else if isOption w then
      match o.read w with
      | some (k, some value) => (o.sort (v :: rest)).map (Sorted.setting k value)
      | some (k, none) => (o.sort rest).map (Sorted.setting k v)
      | none => none
    else (o.sort (v :: rest)).map (Sorted.argument w)

/-- What to train with. -/
structure Training where
  input : Path
  output : Path
  variant : Option String
  aggressiveness : Option Float
  epsilon : Option Float
  config : Option Path

/-- What to predict with. -/
structure Prediction where
  weights : Path
  input : Path
  config : Option Path

/-- The option that names a configuration. -/
def configOption : List (String × Setting) := [("--config", .config)]

/-- The options of training. -/
def trainingOptions : Options where
  letters := [('v', .variant), ('c', .aggressiveness), ('e', .epsilon)]
  words := [("--variant", .variant), ("--c", .aggressiveness), ("--epsilon", .epsilon)] ++
    configOption

/-- The options of prediction. -/
def predictionOptions : Options := ⟨[], configOption⟩

/-- The number that an option gives, if it is given; nothing if it is none. -/
def Sorted.number? (s : Sorted) (k : Setting) : Option (Option Float) :=
  match s.get? k with
  | none => some none
  | some v => (Number.float? v).map some

/-- The configuration named. -/
def Sorted.config (s : Sorted) : Option Path := (s.get? .config).map .ofText

/-- What to train with, by the words after the command. -/
def Training.ofWords (words : List String) : Option Training := do
  let s ← trainingOptions.sort words
  let aggressiveness ← s.number? .aggressiveness
  let epsilon ← s.number? .epsilon
  match s.arguments with
  | [input, output] =>
    some ⟨.ofText input, .ofText output, s.get? .variant, aggressiveness, epsilon, s.config⟩
  | _ => none

/-- What to predict with, by the words after the command. -/
def Prediction.ofWords (words : List String) : Option Prediction := do
  let s ← predictionOptions.sort words
  match s.arguments with
  | [weights, input] => some ⟨.ofText weights, .ofText input, s.config⟩
  | _ => none

end Command

/-- What the program is asked to do. -/
inductive Command where
  | version
  | train (t : Command.Training)
  | predict (p : Command.Prediction)

namespace Command

/-- The command with a name, and the words after it. -/
def ofName (name : String) (words : List String) : Option Command :=
  match name with
  | "version" =>
    match (⟨[], []⟩ : Options).sort words with
    | some ⟨[], []⟩ => some .version
    | _ => none
  | "train" => (Training.ofWords words).map .train
  | "predict" => (Prediction.ofWords words).map .predict
  | _ => none

/-- The command in the words of a command line. -/
def ofWords : List String → Option Command
  | "--" :: name :: words => ofName name words
  | name :: words => ofName name words
  | [] => none

end Command
end PassiveAggressive

import PassiveAggressive.Configuration.Entry
import PassiveAggressive.Learner.Settings

/-!
# Sections of a configuration

A configuration has three sections: where the log goes, how the learner is set, and
how a table of examples is laid out.  Every entry has a default, entries that nobody
reads are ignored, and findings come in the order in which the entries are declared
here.
-/

namespace PassiveAggressive

/-- Where the log goes and what goes there. -/
structure LogSettings where
  directory : String
  rotation : String
  retention : String
  level : String
  deriving DecidableEq, Repr

namespace LogSettings

/-- The log settings where nothing is configured. -/
def default : LogSettings := ⟨"logs", "1 day", "30 days", "INFO"⟩

/-- The name of the section's model in findings. -/
def model : String := "LogConfig"

/-- The log settings in a section. -/
def ofSection (s : Section) : Checked LogSettings :=
  (((Checked.apply (.ok mk) (s.entry "dir" Entry.text default.directory)).apply
    (s.entry "rotation" Entry.text default.rotation)).apply
    (s.entry "retention" Entry.text default.retention)).apply
    (s.entry "level" Entry.text default.level)

end LogSettings

/-- How a table holds examples: one column for the features, one for the target. -/
structure TableLayout where
  featuresColumn : String
  targetColumn : String
  /-- What separates the feature tokens of a cell. -/
  delimiter : String
  /-- Whether names made of digits become whole numbers. -/
  intIds : Bool
  /-- Whether invalid rows are dropped with a warning, or stop the reading. -/
  dropInvalid : Bool
  deriving DecidableEq, Repr

namespace TableLayout

/-- The layout where nothing is configured. -/
def default : TableLayout := ⟨"features", "target", " ", false, true⟩

@[inherit_doc LogSettings.model]
def model : String := "DatasetConfig"

/-- The layout in a section. -/
def ofSection (s : Section) : Checked TableLayout :=
  ((((Checked.apply (.ok mk) (s.entry "features_column" Entry.text default.featuresColumn)).apply
    (s.entry "target_column" Entry.text default.targetColumn)).apply
    (s.entry "delimiter" Entry.text default.delimiter)).apply
    (s.entry "int_ids" Entry.truth default.intIds)).apply
    (s.entry "drop_invalid" Entry.truth default.dropInvalid)

end TableLayout

namespace Settings

/-- The margin where none is configured. -/
def defaultEpsilon : Float := Number.ofDecimal false 1 (-1)

/-- The learner's settings where nothing is configured. -/
def default : Settings Float := ⟨.pa1, none, defaultEpsilon⟩

@[inherit_doc LogSettings.model]
def model : String := "PAConfig"

/-- The variant in a section. -/
def variantOf (s : Section) : Except UnknownVariant Variant :=
  match s.get? "variant" with
  | none => .ok default.variant
  | some given => Variant.resolve given

/-- The learner's settings in a section, for the variant read from it. -/
def ofSection (variant : Variant) (s : Section) : Checked (Settings Float) :=
  (Checked.apply (.ok (mk variant))
    (s.entry "aggressiveness" Entry.number? default.aggressiveness)).apply
    (s.entry "epsilon" Entry.number default.epsilon)

/-- The learner's settings in a section. -/
def read (s : Section) : Except Rejection (Settings Float) :=
  match variantOf s with
  | .error e => .error (.unknownVariant e)
  | .ok variant => (ofSection variant s).mapError .findings

/-- Settings do not change: whatever is assigned to an entry is refused. -/
def assign (_ : Settings Float) (name : String) (given : Value) : Finding :=
  ⟨[name], .frozen, given⟩

end Settings
end PassiveAggressive

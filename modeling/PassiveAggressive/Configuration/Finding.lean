import PassiveAggressive.Learner.VariantName

/-!
# Findings

A configuration is checked entry by entry, and everything that is wrong with it is
reported at once: each `Finding` names the path to the entry, what was found there
and what is wrong with it.  `Checked α` is a value or a non-empty list of findings,
and `Checked.apply` puts two of them together so that the findings of both are kept,
in the order in which the entries are declared.

An unknown variant is no finding: it stops the check at once (`Rejection`).
-/

namespace PassiveAggressive

/-- What is wrong with an entry. -/
inductive Complaint where
  | notText
  | notNumber
  /-- The entry is a text and no numeral. -/
  | unreadableNumber
  | notTruth
  /-- The entry may stand for a truth value, but not this one. -/
  | unreadableTruth
  /-- A section is not a mapping; the name is that of the section's model. -/
  | notSection (model : String)
  /-- The entry cannot be changed any more. -/
  | frozen
  deriving DecidableEq, Repr

namespace Complaint

/-- The short name of a complaint. -/
def name : Complaint → String
  | notText => "string_type"
  | notNumber => "float_type"
  | unreadableNumber => "float_parsing"
  | notTruth => "bool_type"
  | unreadableTruth => "bool_parsing"
  | notSection _ => "model_type"
  | frozen => "frozen_instance"

/-- The wording of a complaint. -/
def message : Complaint → String
  | notText => "Input should be a valid string"
  | notNumber => "Input should be a valid number"
  | unreadableNumber => "Input should be a valid number, unable to parse string as a number"
  | notTruth => "Input should be a valid boolean"
  | unreadableTruth => "Input should be a valid boolean, unable to interpret input"
  | notSection model => "Input should be a valid dictionary or instance of " ++ model
  | frozen => "Instance is frozen"

end Complaint

/-- One thing that is wrong with a configuration. -/
structure Finding where
  path : List String
  complaint : Complaint
  /-- What stands at the path. -/
  given : Value

/-- The finding as seen from a section further out. -/
def Finding.within (section_ : String) (f : Finding) : Finding :=
  { f with path := section_ :: f.path }

/-- A value, or everything that is wrong with what it was to be read from. -/
abbrev Checked (α : Type) := Except (List Finding) α

namespace Checked

variable {α β : Type}

/-- A function applied to its argument, where the findings of both are kept. -/
def apply (f : Checked (α → β)) (a : Checked α) : Checked β :=
  match f, a with
  | .ok f, .ok a => .ok (f a)
  | .ok _, .error e => .error e
  | .error e, .ok _ => .error e
  | .error e, .error e' => .error (e ++ e')

/-- The findings seen from the section that was checked. -/
def within (section_ : String) (a : Checked α) : Checked α :=
  a.mapError fun e => e.map (Finding.within section_)

/-- Two checks succeed together only if both do. -/
theorem apply_eq_ok_iff {f : Checked (α → β)} {a : Checked α} {b : β} :
    apply f a = .ok b ↔ ∃ g x, f = .ok g ∧ a = .ok x ∧ g x = b := by
  cases f <;> cases a <;> simp [apply]

end Checked

/-- Why a configuration is not accepted. -/
inductive Rejection where
  | unknownVariant (e : UnknownVariant)
  | findings (list : List Finding)

/-- The entries of a mapping that have a name. -/
abbrev Section := List (String × Value)

namespace Section

/-- The value of an entry. -/
def get? (s : Section) (name : String) : Option Value :=
  s.lookup name

/-- The entries of a mapping whose keys are texts. -/
def ofEntries (entries : List (Value × Value)) : Section :=
  entries.filterMap fun e => e.1.text?.map fun name => (name, e.2)

/-- An entry read by `read`, or the value to use where there is none. -/
def entry {α : Type} (s : Section) (name : String) (read : Value → Except Complaint α)
    (otherwise : α) : Checked α :=
  match s.get? name with
  | none => .ok otherwise
  | some given => (read given).mapError fun complaint => [⟨[name], complaint, given⟩]

end Section
end PassiveAggressive

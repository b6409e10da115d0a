import PassiveAggressive.Learner.Variant
import PassiveAggressive.Text.Split
import PassiveAggressive.Value.Literal

/-!
# Names of variants

A variant is named in a configuration or on the command line.  The name is read
without the blanks around it and without regard to case, and each variant has a
second name: that of the function which trains it in query languages.
-/

namespace PassiveAggressive

/-- No variant has the name given. -/
structure UnknownVariant where
  given : Value

/-- The wording of the error, which lists the names that exist. -/
def UnknownVariant.message (e : UnknownVariant) : String :=
  "Unknown PA variant: " ++ e.given.literal ++ ". Available: " ++
    Text.joinWith ", " (Variant.all.map Variant.name)

namespace Variant

/-- The name of the function that trains the variant in query languages. -/
def functionName (v : Variant) : String := "train_" ++ Text.lower v.name ++ "_regr"

/-- The variant with the given name.  Names are ASCII, and no character beyond ASCII is an upper
case form of one of their letters. -/
def named? (s : String) : Option Variant :=
  let key := Text.lower (Text.strip s)
  all.find? fun v => key = Text.lower v.name || key = v.functionName

/-- The variant that a value stands for: a variant stands for itself, anything else is read as a
name. -/
def resolve : Value → Except UnknownVariant Variant
  | .variant v => .ok v
  | given =>
    match named? given.display with
    | some v => .ok v
    | none => .error ⟨given⟩

@[simp] theorem resolve_variant (v : Variant) : resolve (.variant v) = .ok v := rfl

end Variant
end PassiveAggressive

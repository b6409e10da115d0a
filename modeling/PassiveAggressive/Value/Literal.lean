import PassiveAggressive.Value
import PassiveAggressive.Number.Rendering
import PassiveAggressive.Text.Quoted

/-!
# Values as text

A value appears in a message in one of two forms.  `Value.literal` shows what it is:
texts are quoted, so that the number 1 and the text `1` differ.  `Value.display` is
what a reader wants to see inside a sentence: a text stands for itself, and every
other value looks like its literal.
-/

namespace PassiveAggressive

/-- A number in at least `width` digits. -/
def zeroPadded (width n : Nat) : String :=
  String.ofList (Text.padLeft width '0' (Number.natChars n))

namespace Moment

/-- The offset from universal time, in hours and minutes. -/
def offsetText (minutes : Int) : String :=
  let m := minutes.natAbs
  (if minutes < 0 then "-" else "+") ++ zeroPadded 2 (m / 60) ++ ":" ++ zeroPadded 2 (m % 60)

/-- The moment in the order year, month, day, hour, minute, second. -/
def display : Moment → String
  | .date y m d => zeroPadded 4 y ++ "-" ++ zeroPadded 2 m ++ "-" ++ zeroPadded 2 d
  | .time y m d h min s us off =>
    zeroPadded 4 y ++ "-" ++ zeroPadded 2 m ++ "-" ++ zeroPadded 2 d ++ " " ++ zeroPadded 2 h ++
      ":" ++ zeroPadded 2 min ++ ":" ++ zeroPadded 2 s ++
      (if us = 0 then "" else "." ++ zeroPadded 6 us) ++ (off.map offsetText).getD ""

/-- A number of minutes as a call with its days and the seconds of its last day. -/
def durationLiteral (minutes : Int) : String :=
  let seconds := minutes * 60
  let days := Int.fdiv seconds 86400
  let rest := Int.fmod seconds 86400
  let parts := (if days = 0 then [] else ["days=" ++ Number.showInt days]) ++
    (if rest = 0 then [] else ["seconds=" ++ Number.showInt rest])
  "datetime.timedelta(" ++ Text.joinWith ", " parts ++ ")"

/-- The offset from universal time as a call. -/
def offsetLiteral (minutes : Int) : String :=
  if minutes = 0 then "datetime.timezone.utc"
  else "datetime.timezone(" ++ durationLiteral minutes ++ ")"

/-- The moment as a call with its parts. -/
def literal : Moment → String
  | .date y m d => "datetime.date(" ++ Text.joinWith ", " ([y, m, d].map Number.showNat) ++ ")"
  | .time y m d h min s us off =>
    let tail := if us ≠ 0 then [s, us] else if s ≠ 0 then [s] else []
    let parts := ([y, m, d, h, min] ++ tail).map Number.showNat
    let zone := (off.map fun o => ["tzinfo=" ++ offsetLiteral o]).getD []
    "datetime.datetime(" ++ Text.joinWith ", " (parts ++ zone) ++ ")"

end Moment

namespace Value

/-- The literal of a pair's two parts. -/
def entryLiteral (id value : String) : String :=
  "FeatureEntry(feature_id=" ++ id ++ ", value=" ++ value ++ ")"

mutual

/-- The value as it would be written down: texts quoted, brackets by kind. -/
def literal : Value → String
  | null => "None"
  | bool b => if b then "True" else "False"
  | int n => Number.showInt n
  | float x => Number.showFloat x
  | text s => Text.quote s
  | list xs => "[" ++ Text.joinWith ", " (literals xs) ++ "]"
  | tuple xs =>
    match literals xs with
    | [x] => "(" ++ x ++ ",)"
    | parts => "(" ++ Text.joinWith ", " parts ++ ")"
  | dict es => "\x7b" ++ Text.joinWith ", " (entryLiterals es) ++ "\x7d"
  | entry id v => entryLiteral (literal id) (literal v)
  | array xs => "array([" ++ Text.joinWith ", " (literals xs) ++ "], dtype=object)"
  | variant v => "<Variant." ++ v.constant ++ ": " ++ Text.quote v.name ++ ">"
  | moment m => m.literal
  | set xs =>
    match literals xs with
    | [] => "set()"
    | parts => "\x7b" ++ Text.joinWith ", " parts ++ "\x7d"

/-- The literals of the items of a list. -/
def literals : List Value → List String
  | [] => []
  | x :: xs => literal x :: literals xs

/-- The entries of a mapping, each as a key and a value. -/
def entryLiterals : List (Value × Value) → List String
  | [] => []
  | (k, v) :: es => (literal k ++ ": " ++ literal v) :: entryLiterals es

end

/-- The value inside a sentence: a text stands for itself. -/
def display : Value → String
  | text s => s
  | variant v => "Variant." ++ v.constant
  | moment m => m.display
  | array xs => "[" ++ Text.joinWith " " (literals xs) ++ "]"
  | v => literal v

@[simp] theorem display_text (s : String) : (text s).display = s := rfl

end Value
end PassiveAggressive

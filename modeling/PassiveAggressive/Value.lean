import PassiveAggressive.Learner.Variant

/-!
# Values

Feature ids, tokens, table cells and configuration entries may be anything a data
file can hold: an id may be a text, a whole number or a pair, a cell may hold a list
of tokens, a configuration section a mapping.  `Value` is that open world, and
`Kind` names what a value is in messages.
-/

namespace PassiveAggressive

/-- A point in time as a data file writes it: a date, or a date with a time of day in
microseconds and an offset from universal time in minutes. -/
inductive Moment where
  | date (year month day : Nat)
  | time (year month day hour minute second micro : Nat) (offset : Option Int)
  deriving DecidableEq, Repr

/-- A value of any kind. -/
inductive Value where
  | null
  | bool (b : Bool)
  | int (n : Int)
  | float (x : Float)
  | text (s : String)
  | list (items : List Value)
  | tuple (items : List Value)
  /-- A mapping, in the order in which its keys were first seen. -/
  | dict (entries : List (Value × Value))
  /-- A feature entry: the pair of an id and a value. -/
  | entry (id value : Value)
  | array (items : List Value)
  | variant (v : Variant)
  | moment (m : Moment)
  | set (items : List Value)
  deriving Inhabited, Repr

/-- What a value is. -/
inductive Kind where
  | null
  | bool
  | int
  | float
  | text
  | list
  | tuple
  | dict
  | entry
  | array
  | variant
  | date
  | time
  | set
  deriving DecidableEq, Repr

namespace Kind

/-- The name of a kind in messages. -/
def name : Kind → String
  | null => "NoneType"
  | bool => "bool"
  | int => "int"
  | float => "float"
  | text => "str"
  | list => "list"
  | tuple => "tuple"
  | dict => "dict"
  | entry => "FeatureEntry"
  | array => "numpy.ndarray"
  | variant => "Variant"
  | date => "datetime.date"
  | time => "datetime.datetime"
  | set => "set"

/-- The last part of the name. -/
def shortName : Kind → String
  | array => "ndarray"
  | date => "date"
  | time => "datetime"
  | k => k.name

/-- The kind whose concatenation rules apply to a value of this kind: an entry is a pair and a
variant is its name. -/
def sequence? : Kind → Option Kind
  | text | variant => some text
  | tuple | entry => some tuple
  | list => some list
  | _ => none

end Kind

namespace Value

/-- What the value is. -/
def kind : Value → Kind
  | null => .null
  | bool _ => .bool
  | int _ => .int
  | float _ => .float
  | text _ => .text
  | list _ => .list
  | tuple _ => .tuple
  | dict _ => .dict
  | entry _ _ => .entry
  | array _ => .array
  | variant _ => .variant
  | moment (.date ..) => .date
  | moment (.time ..) => .time
  | set _ => .set

/-- The text in a value that is one; a variant is the text of its name. -/
def text? : Value → Option String
  | text s => some s
  | variant v => some v.name
  | _ => none

/-- The truth of a value: everything but null, false, zero and what is empty is true. -/
def isTrue : Value → Bool
  | null => false
  | bool b => b
  | int n => n ≠ 0
  | float x => !(x == 0)
  | text s => !s.isEmpty
  | list xs | tuple xs | array xs | set xs => !xs.isEmpty
  | dict es => !es.isEmpty
  | entry _ _ | variant _ | moment _ => true

end Value
end PassiveAggressive

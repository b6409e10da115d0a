import PassiveAggressive.Fault
import PassiveAggressive.Number.Binary64

/-!
# Keys

A weight belongs to a feature id, and ids of different kinds can be the same key:
the whole number 1, the double 1.0 and the truth value are one key, the text `1` is
another, and two pairs are the same key if their parts are.  A value that is no
number equals nothing, itself included.

## How keys are compared

`Value.keyParts` writes a value down as a list of parts in which every number that
is whole appears as a whole number and every tuple announces its length.  Two values
are the same key if these lists are equal and hold no `nan`.  The comparison is
therefore symmetric and transitive by construction (`same_symm`, `same_trans`), and
reflexive on everything that `nan` does not occur in.  Lists, mappings and sets have
no parts: they can change, so they are no keys.
-/

namespace PassiveAggressive

/-- Something that weights can be filed under. -/
class Key (ι : Type) where
  /-- Whether a value may be used as a key at all. -/
  check : ι → Except Fault Unit
  /-- Whether two values are the same key. -/
  same : ι → ι → Bool

/-- Sameness of keys is a partial equivalence. -/
class LawfulKey (ι : Type) [Key ι] : Prop where
  same_symm : ∀ {a b : ι}, Key.same a b = true → Key.same b a = true
  same_trans : ∀ {a b c : ι}, Key.same a b = true → Key.same b c = true → Key.same a c = true

/-- One part of a key. -/
inductive KeyPart where
  | null
  | whole (n : Int)
  /-- A double that is no whole number, by its bits. -/
  | fraction (bits : UInt64)
  | nan
  | text (s : String)
  | moment (m : Moment)
  /-- The beginning of a tuple with this many items. -/
  | items (count : Nat)
  deriving DecidableEq, Repr

namespace Value

/-- The part of a double. -/
def floatPart (x : Float) : KeyPart :=
  if x.isNaN then .nan
  else
    match Number.toInt? x with
    | some n => .whole n
    | none => .fraction x.toBits

mutual

/-- The parts of a value as a key, or the reason why it is none. -/
def keyParts : Value → Except Fault (List KeyPart)
  | null => .ok [.null]
  | bool b => .ok [.whole (if b then 1 else 0)]
  | int n => .ok [.whole n]
  | float x => .ok [floatPart x]
  | text s => .ok [.text s]
  | variant v => .ok [.text v.name]
  | moment m => .ok [.moment m]
  | tuple xs => do
    let parts ← keyPartsAll xs
    .ok (.items xs.length :: parts)
  | entry id v => do
    let first ← keyParts id
    let second ← keyParts v
    .ok (.items 2 :: first ++ second)
  | list _ => .error (.unhashable .list)
  | dict _ => .error (.unhashable .dict)
  | array _ => .error (.unhashable .array)
  | set _ => .error (.unhashable .set)

/-- The parts of the items of a tuple, one after the other. -/
def keyPartsAll : List Value → Except Fault (List KeyPart)
  | [] => .ok []
  | x :: xs => do
    let first ← keyParts x
    let rest ← keyPartsAll xs
    .ok (first ++ rest)

end

/-- Whether two values are the same key. -/
def sameKey (a b : Value) : Bool :=
  match keyParts a, keyParts b with
  | .ok p, .ok q => p = q && !p.contains .nan
  | _, _ => false

instance : Key Value where
  check v := (keyParts v).map fun _ => ()
  same := sameKey

theorem sameKey_iff {a b : Value} :
    sameKey a b = true ↔ ∃ p, keyParts a = .ok p ∧ keyParts b = .ok p ∧ KeyPart.nan ∉ p := by
  unfold sameKey
  split
  · rename_i p q ha hb
    constructor
    · intro h
      simp only [Bool.and_eq_true, decide_eq_true_eq, Bool.not_eq_true',
        List.contains_eq_mem, decide_eq_false_iff_not] at h
      exact ⟨p, ha, by rw [hb, h.1], h.2⟩
    · rintro ⟨r, hra, hrb, hr⟩
      rw [ha] at hra
      rw [hb] at hrb
      injection hra with hra
      injection hrb with hrb
      subst hra; subst hrb
      simpa using hr
  · rename_i hne
    constructor
    · simp
    · rintro ⟨p, ha, hb, _⟩
      exact absurd hb (hne p p ha)

instance : LawfulKey Value where
  same_symm := by
    intro a b h
    obtain ⟨p, ha, hb, hn⟩ := sameKey_iff.1 h
    exact sameKey_iff.2 ⟨p, hb, ha, hn⟩
  same_trans := by
    intro a b c hab hbc
    obtain ⟨p, ha, hb, hn⟩ := sameKey_iff.1 hab
    obtain ⟨q, hb', hc, _⟩ := sameKey_iff.1 hbc
    have : p = q := by rw [hb] at hb'; injection hb'
    exact sameKey_iff.2 ⟨p, ha, this ▸ hc, hn⟩

end Value
end PassiveAggressive

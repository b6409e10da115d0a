import PassiveAggressive.Arithmetic
import PassiveAggressive.Value.Key

/-!
# Weights

The model of the learner is one weight per feature id.  Ids are kept in the order in
which they were first given a weight, and each is kept as it was first written: a
weight filed under the whole number 1 is found under 1.0, and stays filed under 1.

An id without an entry has the weight zero.  Reading never makes an entry, and no
entry is ever removed.
-/

namespace PassiveAggressive

/-- One feature of an example: an id and the value it has there. -/
structure Feature (ι α : Type) where
  id : ι
  value : α
  deriving DecidableEq, Repr

/-- The features of an example, in order. -/
abbrev Features (ι α : Type) := List (Feature ι α)

/-- The weights learnt so far, in the order of their first appearance. -/
structure WeightMap (ι α : Type) where
  entries : List (ι × α)
  deriving DecidableEq, Repr

namespace WeightMap

variable {ι α : Type}

/-- No weights. -/
def empty : WeightMap ι α := ⟨[]⟩

/-- The number of ids with a weight. -/
def size (m : WeightMap ι α) : Nat := m.entries.length

/-- The ids with a weight. -/
def keys (m : WeightMap ι α) : List ι := m.entries.map Prod.fst

@[simp] theorem entries_empty : (empty : WeightMap ι α).entries = [] := rfl

@[simp] theorem size_empty : (empty : WeightMap ι α).size = 0 := rfl

@[simp] theorem keys_empty : (empty : WeightMap ι α).keys = [] := rfl

theorem length_keys (m : WeightMap ι α) : m.keys.length = m.size := by simp [keys, size]

variable [Key ι]

/-- The weight filed under an id, if there is one. -/
def find? (m : WeightMap ι α) (id : ι) : Option α :=
  (m.entries.find? fun e => Key.same e.1 id).map Prod.snd

/-- The entries after a weight is filed: the entry with the same key takes the weight and keeps
its id, and if there is none a new entry is put at the end. -/
def fileIn (id : ι) (w : α) : List (ι × α) → List (ι × α)
  | [] => [(id, w)]
  | e :: es => if Key.same e.1 id then (e.1, w) :: es else e :: fileIn id w es

/-- Files a weight under an id. -/
def insert (m : WeightMap ι α) (id : ι) (w : α) : WeightMap ι α := ⟨fileIn id w m.entries⟩

/-- Whether an id has a weight; a value that is no key is a fault, not a miss. -/
def contains (m : WeightMap ι α) (id : ι) : Except Fault Bool := do
  Key.check id
  .ok (m.find? id).isSome

@[simp] theorem fileIn_nil (id : ι) (w : α) : fileIn id w [] = [(id, w)] := rfl

/-- The ids stay the same, or the new id is put at the end because none of them is the same
key. -/
theorem keys_insert (m : WeightMap ι α) (id : ι) (w : α) :
    (m.insert id w).keys =
      if m.keys.any (Key.same · id) then m.keys else m.keys ++ [id] := by
  suffices h : ∀ es : List (ι × α), (fileIn id w es).map Prod.fst =
      if (es.map Prod.fst).any (Key.same · id) then es.map Prod.fst
      else es.map Prod.fst ++ [id] from h m.entries
  intro es
  induction es with
  | nil => simp
  | cons e es ih =>
    simp only [fileIn]
    by_cases he : Key.same e.1 id = true
    · simp [he]
    · simp only [he, Bool.false_eq_true, ↓reduceIte, List.map_cons, ih, List.any_cons,
        Bool.false_or]
      split <;> simp

variable [Arithmetic α]

/-- The weight of an id, zero if none is filed under it. -/
def get (m : WeightMap ι α) (id : ι) : Except Fault α := do
  Key.check id
  .ok ((m.find? id).getD Arithmetic.zero)

/-- Adds to the weight of an id. -/
def add (m : WeightMap ι α) (id : ι) (delta : α) : Except Fault (WeightMap ι α) := do
  let w ← m.get id
  let sum ← Arithmetic.add w delta
  .ok (m.insert id sum)

/-- The weights made by adding each pair in turn. -/
def ofPairs (pairs : List (ι × α)) : Except Fault (WeightMap ι α) :=
  pairs.foldlM (fun m p => m.add p.1 p.2) empty

end WeightMap
end PassiveAggressive

/-!
# Named values

Measurements are filed under names and are shown in the order in which the names
first came up.  `put` keeps the place of a name it knows; `erase` gives the place up.
-/

namespace PassiveAggressive

/-- Values by name, in the order of the names' first appearance. -/
structure Named (α : Type) where
  entries : List (String × α)
  deriving DecidableEq, Repr

namespace Named

variable {α : Type}

/-- Nothing filed. -/
def empty : Named α := ⟨[]⟩

/-- The value under a name. -/
def get? (m : Named α) (name : String) : Option α := m.entries.lookup name

/-- Whether a name is filed. -/
def has (m : Named α) (name : String) : Bool := (m.get? name).isSome

/-- The entries with a value filed under a name. -/
def file (name : String) (value : α) : List (String × α) → List (String × α)
  | [] => [(name, value)]
  | e :: es => if e.1 = name then (name, value) :: es else e :: file name value es

/-- Files a value under a name. -/
def put (m : Named α) (name : String) (value : α) : Named α := ⟨file name value m.entries⟩

/-- Takes a name out. -/
def erase (m : Named α) (name : String) : Named α := ⟨m.entries.filter fun e => e.1 ≠ name⟩

@[simp] theorem get?_empty (name : String) : (empty : Named α).get? name = none := rfl

@[simp] theorem has_empty (name : String) : (empty : Named α).has name = false := rfl

@[simp] theorem get?_put_self (m : Named α) (name : String) (value : α) :
    (m.put name value).get? name = some value := by
  obtain ⟨es⟩ := m
  induction es with
  | nil => simp [put, get?, file]
  | cons e es ih =>
    simp only [put, get?, file] at ih ⊢
    split
    · simp
    · rename_i h
      rw [List.lookup_cons]
      have : (name == e.1) = false := by simpa using fun h' => h h'.symm
      rw [this]
      exact ih

@[simp] theorem get?_put_of_ne {m : Named α} {name other : String} (value : α)
    (h : other ≠ name) : (m.put name value).get? other = m.get? other := by
  obtain ⟨es⟩ := m
  induction es with
  | nil =>
    have : (other == name) = false := by simpa using h
    simp [put, get?, file, List.lookup_cons, this]
  | cons e es ih =>
    simp only [put, get?, file] at ih ⊢
    split
    · rename_i he
      subst he
      have : (other == e.1) = false := by simpa using h
      rw [List.lookup_cons, List.lookup_cons, this]
    · rw [List.lookup_cons, List.lookup_cons, ih]

@[simp] theorem get?_erase_self (m : Named α) (name : String) :
    (m.erase name).get? name = none := by
  rw [get?, erase, List.lookup_eq_none_iff]
  intro e he
  simpa using Ne.symm (of_decide_eq_true (List.mem_filter.1 he).2)

@[simp] theorem get?_erase_of_ne {m : Named α} {name other : String} (h : other ≠ name) :
    (m.erase name).get? other = m.get? other := by
  obtain ⟨es⟩ := m
  simp only [erase, get?]
  induction es with
  | nil => rfl
  | cons e es ih =>
    by_cases he : e.1 = name
    · have : (other == e.1) = false := by simpa [he] using h
      rw [List.filter_cons_of_neg (by simpa using he), List.lookup_cons, this, ih]
    · rw [List.filter_cons_of_pos (by simpa using he), List.lookup_cons, List.lookup_cons, ih]

end Named
end PassiveAggressive

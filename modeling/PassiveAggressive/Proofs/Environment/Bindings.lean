import Mathlib.Data.List.Induction
import Mathlib.Data.List.Nodup
import Mathlib.Tactic.Tauto
import PassiveAggressive.Environment.Variables

/-!
# What a file of bindings adds

A file of bindings fills the gaps of an environment.  A name that the environment has keeps
its value, even an empty one; any other name takes the value it is bound to, if it is bound
to one (`get?_of_setMissing`).  The variables are set one after the other, and the first that
the system refuses ends the loading; so the file is loaded exactly if the system takes every
variable that is missing (`exists_setMissing_iff`).

Both statements need that a name comes up once among the bindings.  `resolve` sees to that:
a name bound twice keeps its place and takes the later value.
-/

namespace PassiveAggressive

namespace Named

variable {α : Type}

theorem mem_names_file {name n : String} {value : α} {es : List (String × α)} :
    n ∈ (file name value es).map Prod.fst ↔ n = name ∨ n ∈ es.map Prod.fst := by
  induction es with
  | nil => simp [file]
  | cons e es ih =>
    rw [file]
    split
    · rename_i he
      subst he
      simp
    · rw [List.map_cons, List.mem_cons, ih, List.map_cons, List.mem_cons]
      tauto

theorem nodup_names_file (name : String) (value : α) {es : List (String × α)}
    (h : (es.map Prod.fst).Nodup) : ((file name value es).map Prod.fst).Nodup := by
  induction es with
  | nil => simp [file]
  | cons e es ih =>
    rw [List.map_cons, List.nodup_cons] at h
    rw [file]
    split
    · rename_i he
      subst he
      simpa using h
    · rename_i he
      rw [List.map_cons, List.nodup_cons, mem_names_file, not_or]
      exact ⟨⟨he, h.1⟩, ih h.2⟩

end Named

namespace Variables

/-! ## The bindings of a file -/

/-- The bindings of a file, if there is one, with their references replaced. -/
def bound (v : Variables) : Option String → Named (Option String)
  | none => .empty
  | some text => v.resolve (Binding.all text)

theorem nodup_names_resolve (v : Variables) (bs : List Binding) :
    ((v.resolve bs).entries.map Prod.fst).Nodup := by
  unfold resolve
  -- The induction is on the last binding: it is filed after all others.
  induction bs using List.reverseRecOn with
  | nil => simp [Named.empty]
  | append_singleton bs b ih =>
    rw [List.foldl_append]
    exact Named.nodup_names_file _ _ ih

theorem nodup_names_bound (v : Variables) (file : Option String) :
    ((v.bound file).entries.map Prod.fst).Nodup := by
  cases file with
  | none => simp [bound, Named.empty]
  | some text => exact nodup_names_resolve v _

/-! ## Setting a variable -/

/-- The system takes a variable of this name and value. -/
def Settable (name value : String) : Prop :=
  (∀ c ∈ name.toList ++ value.toList, c.toNat ≠ 0) ∧ '=' ∉ name.toList

-- It goes through the characters of the two texts, and not through all that there are.
instance (name value : String) : Decidable (Settable name value) :=
  @instDecidableAnd _ _ (List.decidableBAll _ _) inferInstance

theorem set_eq_ok_iff {v v' : Variables} {name value : String} :
    v.set name value = .ok v' ↔ Settable name value ∧ v.put name value = v' := by
  have hany : (name.toList.any (fun c => decide (c.toNat = 0)) ||
      value.toList.any fun c => decide (c.toNat = 0)) = true ↔
        ¬∀ c ∈ name.toList ++ value.toList, c.toNat ≠ 0 := by
    rw [← List.any_append, List.any_eq_true]
    push Not
    simp only [decide_eq_true_eq]
  simp only [set, Settable, List.contains_eq_mem, hany, decide_eq_true_eq]
  split_ifs with hnull hsign
  · exact iff_of_false nofun fun h => h.1.2 hsign
  · exact ⟨fun h => ⟨⟨hnull, hsign⟩, Except.ok.inj h⟩, fun h => congrArg _ h.2⟩
  · exact iff_of_false nofun fun h => hnull h.1.1

/-! ## Setting what is missing -/

/-- A binding is passed over, because it has no value or its name is there already, or else its
variable is set. -/
theorem setMissing_cons_eq_ok_iff {v v' : Variables} {name : String} {value : Option String}
    {bs : List (String × Option String)} :
    v.setMissing ((name, value) :: bs) = .ok v' ↔
      ((value = none ∨ v.has name = true) ∧ v.setMissing bs = .ok v') ∨
        ∃ x, value = some x ∧ v.has name = false ∧ Settable name x ∧
          setMissing (v.put name x) bs = .ok v' := by
  cases value with
  | none => simp [setMissing]
  | some x =>
    rw [setMissing]
    cases hhas : v.has name with
    | true => simp
    | false =>
      cases hset : v.set name x with
      | error e =>
        have : ¬Settable name x := fun h => by
          rw [set_eq_ok_iff.2 ⟨h, rfl⟩] at hset
          cases hset
        simp [this, bind, Except.bind]
      | ok u =>
        obtain ⟨hx, rfl⟩ := set_eq_ok_iff.1 hset
        simp [hx, bind, Except.bind]

theorem has_put_of_ne {v : Variables} {name other : String} (value : String) (h : other ≠ name) :
    (v.put name value).has other = v.has other := by
  rw [Named.has, Named.get?_put_of_ne value h, Named.has]

theorem notMem_of_nodup_names {name : String} {value : Option String}
    {bs : List (String × Option String)}
    (hnames : (((name, value) :: bs).map Prod.fst).Nodup) (other : Option String) :
    (name, other) ∉ bs := by
  rw [List.map_cons, List.nodup_cons] at hnames
  exact fun h => hnames.1 (List.mem_map.2 ⟨_, h, rfl⟩)

/-- A name keeps its value, or takes the one it is bound to. -/
theorem get?_of_setMissing {bs : List (String × Option String)} {v v' : Variables}
    (hnames : (bs.map Prod.fst).Nodup) (h : v.setMissing bs = .ok v') (name : String) :
    v'.get? name = (v.get? name).or (bs.lookup name).join := by
  induction bs generalizing v with
  | nil =>
    cases h
    simp
  | cons b bs ih =>
    obtain ⟨n, value⟩ := b
    have hlater : bs.lookup n = none := by
      rw [List.lookup_eq_none_iff]
      rintro ⟨m, other⟩ hb
      simp only [bne_iff_ne]
      rintro rfl
      exact notMem_of_nodup_names hnames other hb
    rw [List.map_cons, List.nodup_cons] at hnames
    obtain ⟨hpassed, h⟩ | ⟨x, rfl, hhas, -, h⟩ := setMissing_cons_eq_ok_iff.1 h
    · rw [ih hnames.2 h, List.lookup_cons]
      by_cases hn : name = n
      · subst hn
        obtain rfl | hhas := hpassed
        · simp [hlater]
        · obtain ⟨x, hx⟩ := Option.isSome_iff_exists.1 hhas
          simp [hx]
      · simp [beq_eq_false_iff_ne.2 hn]
    · rw [ih hnames.2 h, List.lookup_cons]
      by_cases hn : name = n
      · subst hn
        have hnone : v.get? name = none := by simpa [Named.has] using hhas
        simp [hnone]
      · simp [beq_eq_false_iff_ne.2 hn, Named.get?_put_of_ne x hn]

/-- The variables can be set exactly if the system takes each that is missing. -/
theorem exists_setMissing_iff {bs : List (String × Option String)} {v : Variables}
    (hnames : (bs.map Prod.fst).Nodup) :
    (∃ v', v.setMissing bs = .ok v') ↔
      ∀ name value, (name, some value) ∈ bs → v.has name = false → Settable name value := by
  induction bs generalizing v with
  | nil => simp [setMissing]
  | cons b bs ih =>
    obtain ⟨n, value⟩ := b
    have hother := notMem_of_nodup_names hnames
    rw [List.map_cons, List.nodup_cons] at hnames
    simp only [setMissing_cons_eq_ok_iff, List.mem_cons, Prod.mk.injEq]
    constructor
    · rintro ⟨v', ⟨hpassed, h⟩ | ⟨x, rfl, hhas, hx, h⟩⟩ name y hy hname
      · obtain ⟨rfl, rfl⟩ | hy := hy
        · simp [hname] at hpassed
        · exact (ih hnames.2).1 ⟨v', h⟩ name y hy hname
      · obtain ⟨rfl, hy⟩ | hy := hy
        · cases hy
          exact hx
        · have hne : name ≠ n := fun he => hother _ (he ▸ hy)
          exact (ih hnames.2).1 ⟨v', h⟩ name y hy ((has_put_of_ne x hne).trans hname)
    · intro hall
      by_cases hpassed : value = none ∨ v.has n = true
      · obtain ⟨v', h⟩ := (ih hnames.2).2 fun name y hy => hall name y (.inr hy)
        exact ⟨v', .inl ⟨hpassed, h⟩⟩
      · rw [not_or, Bool.not_eq_true] at hpassed
        obtain ⟨x, rfl⟩ := Option.ne_none_iff_exists'.1 hpassed.1
        obtain ⟨v', h⟩ := (ih (v := v.put n x) hnames.2).2 fun name y hy hname =>
          have hne : name ≠ n := fun he => hother _ (he ▸ hy)
          hall name y (.inr hy) ((has_put_of_ne x hne).symm.trans hname)
        exact ⟨v', .inr ⟨x, rfl, hpassed.2, hall n x (.inl ⟨rfl, rfl⟩) hpassed.2, h⟩⟩

/-! ## Loading a file -/

/-- The system takes every variable that a file of bindings adds. -/
def Loadable (v : Variables) (file : Option String) : Prop :=
  ∀ name value, (name, some value) ∈ (v.bound file).entries → v.has name = false →
    Settable name value

instance (v : Variables) (file : Option String) : Decidable (v.Loadable file) :=
  decidable_of_iff
    (∀ b ∈ (v.bound file).entries, v.has b.1 = false → ∀ value ∈ b.2, Settable b.1 value)
    ⟨fun h name value hb hname => h (name, some value) hb hname value rfl,
      fun h b hb hname value hvalue => h b.1 value (by rwa [← hvalue]) hname⟩

/-- The environment with what a file of bindings adds. -/
theorem exists_setMissing_bound_iff {v : Variables} {file : Option String} :
    (∃ v', v.setMissing (v.bound file).entries = .ok v') ↔ v.Loadable file :=
  exists_setMissing_iff (nodup_names_bound v file)

theorem get?_of_setMissing_bound {v v' : Variables} {file : Option String}
    (h : v.setMissing (v.bound file).entries = .ok v') (name : String) :
    v'.get? name = (v.get? name).or ((v.bound file).get? name).join :=
  get?_of_setMissing (nodup_names_bound v file) h name

end Variables
end PassiveAggressive

import Mathlib.Data.List.Basic
import Mathlib.Data.Prod.Basic
import PassiveAggressive.Learner.Weights

/-!
# Filing a weight

What a model finds after a weight has been filed.  The entries are a list and keys are
compared by a partial equivalence, so the two facts that everything else rests on need
an argument: a filed weight is found under every id that is the same key, and nothing
else is found differently (`find?_insert`).  Ids that are the same key find the same
weight (`find?_congr`), also where the model holds several entries that are the same
key, because the first one wins in reading and in filing.

An id that is not the same key as itself is never found.  Filing under it always makes
a new entry, and the statements below hold of it as they stand.

* `DistinctKeys`: no two entries are the same key, which filing preserves
  (`distinctKeys_insert`).
* `map`: the same ids with their weights rewritten, which commutes with reading and
  filing.
-/

namespace PassiveAggressive

variable {ι α β : Type}

/-- The same feature with its value rewritten. -/
def Feature.map (g : α → β) (f : Feature ι α) : Feature ι β := ⟨f.id, g f.value⟩

/-- No two features of an example have ids that are the same key. -/
def DistinctIds [Key ι] (x : Features ι α) : Prop :=
  x.Pairwise fun f g => Key.same f.id g.id = false

namespace WeightMap

/-- The same ids, in the same order, with every weight rewritten. -/
def map (f : α → β) (m : WeightMap ι α) : WeightMap ι β := ⟨m.entries.map fun e => (e.1, f e.2)⟩

@[simp] theorem entries_map (f : α → β) (m : WeightMap ι α) :
    (m.map f).entries = m.entries.map fun e => (e.1, f e.2) := rfl

theorem map_injective {f : α → β} (hf : Function.Injective f) :
    Function.Injective (map f : WeightMap ι α → WeightMap ι β) := by
  intro m m' h
  have hentry : Function.Injective (Prod.map id f : ι × α → ι × β) :=
    Function.injective_id.prodMap hf
  exact congrArg mk (hentry.list_map (congrArg entries h))

@[simp] theorem map_empty (f : α → β) : (empty : WeightMap ι α).map f = empty := rfl

@[simp] theorem keys_map (f : α → β) (m : WeightMap ι α) : (m.map f).keys = m.keys := by
  simp [keys, map, Function.comp_def]

variable [Key ι]

/-- No two entries are the same key. -/
def DistinctKeys (m : WeightMap ι α) : Prop :=
  m.keys.Pairwise fun a b => Key.same a b = false

@[simp] theorem distinctKeys_empty : (empty : WeightMap ι α).DistinctKeys := List.Pairwise.nil

@[simp] theorem find?_empty (id : ι) : (empty : WeightMap ι α).find? id = none := rfl

theorem find?_cons (e : ι × α) (es : List (ι × α)) (id : ι) :
    (⟨e :: es⟩ : WeightMap ι α).find? id =
      if Key.same e.1 id then some e.2 else find? ⟨es⟩ id := by
  unfold find?
  rw [List.find?_cons]
  cases Key.same e.1 id <;> rfl

theorem find?_of_mem {m : WeightMap ι α} (hm : m.DistinctKeys) {e : ι × α} (he : e ∈ m.entries)
    (hself : Key.same e.1 e.1 = true) : m.find? e.1 = some e.2 := by
  obtain ⟨es⟩ := m
  induction es with
  | nil => exact absurd he List.not_mem_nil
  | cons d es ih =>
    obtain ⟨hhead, htail⟩ := List.pairwise_cons.1 hm
    rw [find?_cons]
    rcases List.mem_cons.1 he with rfl | hmem
    · rw [if_pos hself]
    · rw [hhead e.1 (List.mem_map_of_mem hmem), if_neg Bool.false_ne_true]
      exact ih htail hmem

/-- A statement about all weights, after one is filed: it holds of the new weight and of all that
were there before, if it cannot hold of the new weight and not of the one that is replaced. -/
theorem forall_fileIn_iff (P : α → Prop) (id : ι) (w : α) (es : List (ι × α))
    (hold : P w → ∀ old, find? ⟨es⟩ id = some old → P old) :
    (∀ e ∈ fileIn id w es, P e.2) ↔ P w ∧ ∀ e ∈ es, P e.2 := by
  induction es with
  | nil => simp
  | cons e es ih =>
    rw [fileIn]
    by_cases he : Key.same e.1 id = true
    · rw [if_pos he, List.forall_mem_cons, List.forall_mem_cons]
      have hreplaced : P w → P e.2 := fun hw => hold hw e.2 (by rw [find?_cons, if_pos he])
      constructor
      · intro h
        exact ⟨h.1, hreplaced h.1, h.2⟩
      · intro h
        exact ⟨h.1, h.2.2⟩
    · rw [if_neg he, List.forall_mem_cons, List.forall_mem_cons,
        ih fun hw old hfind => hold hw old (by rw [find?_cons, if_neg he, hfind])]
      exact and_left_comm

theorem forall_fileIn {P : α → Prop} {es : List (ι × α)} (hes : ∀ e ∈ es, P e.2) {w : α}
    (hw : P w) (id : ι) : ∀ e ∈ fileIn id w es, P e.2 := by
  refine (forall_fileIn_iff P id w es fun _ old hold => ?_).2 ⟨hw, hes⟩
  obtain ⟨e, he, rfl⟩ := Option.map_eq_some_iff.1 hold
  exact hes e (List.mem_of_find?_eq_some he)

@[simp] theorem find?_map (f : α → β) (m : WeightMap ι α) (id : ι) :
    (m.map f).find? id = (m.find? id).map f := by
  obtain ⟨es⟩ := m
  induction es with
  | nil => rfl
  | cons e es ih =>
    have hmap : (⟨e :: es⟩ : WeightMap ι α).map f = ⟨(e.1, f e.2) :: (map f ⟨es⟩).entries⟩ := rfl
    rw [hmap, find?_cons, find?_cons]
    split
    · rfl
    · exact ih

theorem insert_map (f : α → β) (m : WeightMap ι α) (id : ι) (w : α) :
    (m.map f).insert id (f w) = (m.insert id w).map f := by
  obtain ⟨es⟩ := m
  suffices h : fileIn id (f w) (es.map fun e => (e.1, f e.2)) =
      (fileIn id w es).map fun e => (e.1, f e.2) from congrArg WeightMap.mk h
  induction es with
  | nil => rfl
  | cons e es ih =>
    rw [List.map_cons, fileIn, fileIn]
    split
    · rfl
    · rw [List.map_cons, ih]

theorem distinctKeys_insert {m : WeightMap ι α} (h : m.DistinctKeys) (id : ι) (w : α) :
    (m.insert id w).DistinctKeys := by
  unfold DistinctKeys
  rw [keys_insert]
  split
  · exact h
  · rename_i hnew
    refine List.pairwise_append.2 ⟨h, List.pairwise_singleton _ _, fun a ha b hb => ?_⟩
    rw [List.mem_singleton.1 hb]
    exact Bool.eq_false_iff.2 fun hab => hnew (List.any_eq_true.2 ⟨a, ha, hab⟩)

variable [LawfulKey ι]

/-- To the left of a key that is the same, sameness does not change. -/
theorem same_congr_right {a b c : ι} (h : Key.same b c = true) :
    Key.same a b = Key.same a c := by
  apply Bool.eq_iff_iff.2
  exact ⟨fun hab => LawfulKey.same_trans hab h,
    fun hac => LawfulKey.same_trans hac (LawfulKey.same_symm h)⟩

theorem same_comm (a b : ι) : Key.same a b = Key.same b a := by
  apply Bool.eq_iff_iff.2
  exact ⟨LawfulKey.same_symm, LawfulKey.same_symm⟩

theorem find?_congr {id id' : ι} (h : Key.same id id' = true) (m : WeightMap ι α) :
    m.find? id = m.find? id' := by
  unfold find?
  simp only [same_congr_right h]

/-- **What is found after a weight is filed.**  The new weight under every id that is the same
key, and what was found before under every other. -/
theorem find?_insert (m : WeightMap ι α) (id id' : ι) (w : α) :
    (m.insert id w).find? id' = if Key.same id id' then some w else m.find? id' := by
  obtain ⟨es⟩ := m
  change find? ⟨fileIn id w es⟩ id' = _
  induction es with
  | nil =>
    rw [fileIn_nil, find?_cons]
  | cons e es ih =>
    rw [fileIn, find?_cons]
    by_cases he : Key.same e.1 id = true
    · -- the entry takes the weight: under `id'` it is read if `id'` is the same key as `id`
      have hee : Key.same e.1 id' = Key.same id id' := by
        rw [same_comm e.1 id', same_comm id id', same_congr_right he]
      rw [if_pos he, find?_cons, hee]
      split <;> rfl
    · rw [if_neg he, find?_cons, ih]
      by_cases hid : Key.same id id' = true
      · have hee : Key.same e.1 id' = false := by
          rw [← same_congr_right hid]
          exact Bool.eq_false_iff.2 he
        simp [hid, hee]
      · simp [hid]

end WeightMap
end PassiveAggressive

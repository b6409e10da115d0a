import PassiveAggressive.Proofs.Exact.DualForm

/-!
# How far a step displaces the weights

What a step does is compared with what it could have done: with any other weights at all, at
their distance from the weights before the step.  An id that is not the same key as itself
would spoil this.  A model may hold entries under such ids, nothing is ever found there, and
yet each would count as a distance of the model from itself.  So distances are taken between
what can be found (`found`, `sqDist`); a model whose entries are different keys is then at no
distance from itself (`sqDist_self`).

A step along an example displaces the weights by a multiple of the example.  Of this only two
things are needed afterwards, and they are what `Displaced` says: how the score of the example
changes, and how the distance from every rival does.  Both hold with the multiple zero of
weights that have stayed where they were, so that a step that moves nothing is no case of its
own.
-/

namespace PassiveAggressive

variable {ι K : Type} [Key ι]

namespace WeightMap

/-! ## What can be found -/

/-- The entries that can be found. -/
def found (w : WeightMap ι K) : WeightMap ι K :=
  ⟨w.entries.filter fun e => Key.same e.1 e.1⟩

theorem distinctKeys_found {w : WeightMap ι K} (hw : w.DistinctKeys) : w.found.DistinctKeys :=
  List.Pairwise.sublist (List.filter_sublist.map Prod.fst) hw

variable [LawfulKey ι]

@[simp] theorem find?_found (w : WeightMap ι K) (id : ι) : w.found.find? id = w.find? id := by
  have hself : ∀ e : ι × K,
      decide (Key.same e.1 e.1 = true ∧ Key.same e.1 id = true) = Key.same e.1 id := by
    intro e
    cases h : Key.same e.1 id with
    | false => simp
    | true => simp [LawfulKey.same_trans h (LawfulKey.same_symm h)]
  simp only [find?, found, List.find?_filter, hself]

/-- Filing under an id that is the same key as itself is filing among what can be found. -/
theorem found_insert (w : WeightMap ι K) {id : ι} (hid : Key.same id id = true) (a : K) :
    (w.insert id a).found = w.found.insert id a := by
  obtain ⟨es⟩ := w
  suffices h : (fileIn id a es).filter (fun e => Key.same e.1 e.1) =
      fileIn id a (es.filter fun e => Key.same e.1 e.1) from congrArg WeightMap.mk h
  induction es with
  | nil => simp [hid]
  | cons e es ih =>
      rw [fileIn]
      by_cases he : Key.same e.1 id = true
      · have hself : Key.same e.1 e.1 = true := LawfulKey.same_trans he (LawfulKey.same_symm he)
        rw [if_pos he, List.filter_cons, List.filter_cons, if_pos hself, if_pos hself, fileIn,
          if_pos he]
      · rw [if_neg he]
        by_cases hself : Key.same e.1 e.1 = true
        · rw [List.filter_cons, List.filter_cons, if_pos hself, if_pos hself, fileIn, if_neg he, ih]
        · rw [List.filter_cons, List.filter_cons, if_neg hself, if_neg hself, ih]

variable [Field K]

@[simp] theorem weight_found (w : WeightMap ι K) (id : ι) : w.found.weight id = w.weight id := by
  rw [weight, weight, find?_found]

@[simp] theorem dot_found (w : WeightMap ι K) (x : Features ι K) : w.found.dot x = w.dot x := by
  simp only [dot, weight_found]

/-- A move along an example whose ids are the same keys as themselves is one of what can be
found. -/
theorem found_moved (w : WeightMap ι K) (c : K) {x : Features ι K}
    (hself : ∀ f ∈ x, Key.same f.id f.id = true) :
    (w.moved c x).found = w.found.moved c x := by
  induction x generalizing w with
  | nil => rfl
  | cons f fs ih =>
      obtain ⟨hf, hfs⟩ := List.forall_mem_cons.1 hself
      have hmoved : ∀ v : WeightMap ι K, v.moved c (f :: fs) =
          (v.insert f.id (v.weight f.id + c * f.value)).moved c fs := fun _ => rfl
      rw [hmoved, hmoved, ih _ hfs, found_insert w hf, weight_found]

/-! ## The distance of two models -/

/-- The squared distance of two models, by what can be found in them. -/
def sqDist (w u : WeightMap ι K) : K := w.found.distSq u.found

/-- A model is at no distance from itself. -/
theorem sqDist_self {w : WeightMap ι K} (hw : w.DistinctKeys) : w.sqDist w = 0 := by
  have hfind : ∀ e ∈ w.found.entries, w.find? e.1 = some e.2 := fun e he => by
    obtain ⟨hmem, hself⟩ := List.mem_filter.1 he
    exact find?_of_mem hw hmem hself
  have hanswered : w.found.answered w.found = 0 := by
    refine List.sum_eq_zero fun b hb => ?_
    obtain ⟨e, he, rfl⟩ := List.mem_map.1 hb
    rw [weight_found, weight, hfind e he, Option.getD_some, sub_self, zero_pow two_ne_zero]
  have hunanswered : w.found.unanswered w.found = 0 := by
    refine List.sum_eq_zero fun b hb => ?_
    obtain ⟨e, he, rfl⟩ := List.mem_map.1 hb
    rw [find?_found, hfind e he, Option.isSome_some, if_pos rfl]
  rw [sqDist, distSq, hanswered, hunanswered, add_zero]

omit [LawfulKey ι] in
theorem sqDist_nonneg [LinearOrder K] [IsStrictOrderedRing K] (w u : WeightMap ι K) :
    0 ≤ w.sqDist u := by
  refine add_nonneg (List.sum_nonneg fun b hb => ?_) (List.sum_nonneg fun b hb => ?_)
  · obtain ⟨e, -, rfl⟩ := List.mem_map.1 hb
    exact sq_nonneg _
  · obtain ⟨e, -, rfl⟩ := List.mem_map.1 hb
    split
    · exact le_rfl
    · exact sq_nonneg _

/-- An id that both know, in two spellings, and one that only one of them knows. -/
example : (⟨[(.int 1, 1)]⟩ : WeightMap Value ℚ).sqDist ⟨[(.text "a", 4), (.bool true, 4)]⟩ =
    25 := by
  decide +kernel

/-! ## Displaced weights -/

/-- The weights `w'` differ from `w` by `c` times the example, as far as its score and the distances
from rivals show. -/
structure Displaced (w : WeightMap ι K) (c : K) (x : Features ι K) (w' : WeightMap ι K) :
    Prop where
  dot_eq : w'.dot x = w.dot x + c * squaredNorm x
  sqDist_eq : ∀ u, u.DistinctKeys →
    w'.sqDist u = w.sqDist u + 2 * c * (w.dot x - u.dot x) + c ^ 2 * squaredNorm x

omit [LawfulKey ι] in
theorem Displaced.refl (w : WeightMap ι K) (x : Features ι K) : w.Displaced 0 x w := by
  refine ⟨?_, fun u _ => ?_⟩
  · rw [zero_mul, add_zero]
  · ring

/-- **Weights that have moved** along an example whose ids are different keys. -/
theorem displaced_moved (w : WeightMap ι K) (c : K) {x : Features ι K} (hx : DistinctIds x)
    (hself : ∀ f ∈ x, Key.same f.id f.id = true) : w.Displaced c x (w.moved c x) := by
  refine ⟨?_, fun u hu => ?_⟩
  · rw [w.dot_moved, overlap_self hx hself]
  · rw [sqDist, found_moved w c hself, distSq_moved _ (distinctKeys_found hu) c hx, dot_found,
      dot_found, sqDist]

theorem Displaced.sqDist_self {w w' : WeightMap ι K} {c : K} {x : Features ι K}
    (h : w.Displaced c x w') (hw : w.DistinctKeys) : w'.sqDist w = c ^ 2 * squaredNorm x := by
  rw [h.sqDist_eq w hw, w.sqDist_self hw, sub_self, mul_zero, add_zero, zero_add]

end WeightMap
end PassiveAggressive

import Mathlib.Tactic.Ring
import PassiveAggressive.Proofs.Exact.Learner

/-!
# The distance between two models

The potential in which the progress of the learner is measured: the squared distance of
the weights from the weights of a rival.  Both are finite lists of entries, so the
distance is a sum over the entries of either --- over those of the weights, and over
those of the rival that no weight answers to --- and filing a weight changes one
summand of one of them (`distSq_insert`).

Moving the weights along an example whose ids are pairwise distinct changes the
distance by an amount that depends on the two scores and the squared norm only
(`distSq_moved`).  Distinctness is needed: where an id occurs twice its two values add
up in the weights, and the norm knows only their squares.
-/

namespace PassiveAggressive

variable {ι K : Type} [Key ι]

variable [Field K]

namespace WeightMap

/-- The squared length of the weights. -/
def normSq (w : WeightMap ι K) : K := (w.entries.map fun e => e.2 ^ 2).sum

/-- The summands of the distance that stand for entries of the weights. -/
def answered (w u : WeightMap ι K) : K := (w.entries.map fun e => (e.2 - u.weight e.1) ^ 2).sum

/-- The summands of the distance that stand for entries of the rival without an answer. -/
def unanswered (w u : WeightMap ι K) : K :=
  (u.entries.map fun e => if (w.find? e.1).isSome then 0 else e.2 ^ 2).sum

/-- The squared distance of the weights from those of a rival. -/
def distSq (w u : WeightMap ι K) : K := w.answered u + w.unanswered u

theorem distSq_empty (u : WeightMap ι K) : (empty : WeightMap ι K).distSq u = u.normSq := by
  simp [distSq, answered, unanswered, normSq]

variable [LawfulKey ι]

theorem weight_congr {id id' : ι} (h : Key.same id id' = true) (w : WeightMap ι K) :
    w.weight id = w.weight id' := by
  unfold weight
  rw [find?_congr h]

theorem weight_insert (w : WeightMap ι K) (id id' : ι) (a : K) :
    (w.insert id a).weight id' = if Key.same id id' then a else w.weight id' := by
  unfold weight
  rw [find?_insert]
  split
  · rfl
  · rfl

/-- Filing changes the summand of the entry that takes the weight, or makes a new one. -/
theorem answered_insert (w u : WeightMap ι K) (id : ι) (a : K) :
    (w.insert id a).answered u = w.answered u + (a - u.weight id) ^ 2 -
      (if (w.find? id).isSome then (w.weight id - u.weight id) ^ 2 else 0) := by
  obtain ⟨es⟩ := w
  change answered ⟨fileIn id a es⟩ u = _
  induction es with
  | nil => simp [answered, find?]
  | cons e es ih =>
    have hcons : ∀ (e : ι × K) (es : List (ι × K)),
        answered ⟨e :: es⟩ u = (e.2 - u.weight e.1) ^ 2 + answered ⟨es⟩ u := fun e es => by
      simp [answered]
    rw [fileIn, find?_cons]
    by_cases he : Key.same e.1 id = true
    · have hw : weight ⟨e :: es⟩ id = e.2 := by
        rw [weight, find?_cons, if_pos he, Option.getD_some]
      rw [if_pos he, if_pos he, hcons, hcons, hw, weight_congr he]
      simp only [Option.isSome_some, if_true]
      ring
    · have hw : weight ⟨e :: es⟩ id = weight ⟨es⟩ id := by
        rw [weight, weight, find?_cons, if_neg he]
      rw [if_neg he, if_neg he, hcons, hcons, hw, ih]
      ring

/-- An id has one summand in the length of a model whose entries are distinct keys. -/
theorem sum_same_eq {u : WeightMap ι K} (hu : u.DistinctKeys) (id : ι) :
    (u.entries.map fun e => if Key.same e.1 id then e.2 ^ 2 else 0).sum = u.weight id ^ 2 := by
  obtain ⟨es⟩ := u
  induction es with
  | nil => simp [weight, find?]
  | cons e es ih =>
    obtain ⟨hhead, htail⟩ := List.pairwise_cons.1 hu
    rw [List.map_cons, List.sum_cons, ih htail, weight, weight, find?_cons]
    by_cases he : Key.same e.1 id = true
    · -- no later entry is the same key, so nothing is found there
      have hnone : find? (⟨es⟩ : WeightMap ι K) id = none := by
        have hno : ∀ f ∈ es, ¬ Key.same f.1 id = true := fun f hf hsame => by
          have := hhead f.1 (List.mem_map_of_mem hf)
          rw [same_congr_right hsame, he] at this
          cases this
        rw [find?, List.find?_eq_none.2 hno, Option.map_none]
      simp [he, hnone]
    · simp [he]

/-- Filing takes the id away from those without an answer. -/
theorem unanswered_insert (w : WeightMap ι K) {u : WeightMap ι K} (hu : u.DistinctKeys) (id : ι)
    (a : K) :
    (w.insert id a).unanswered u = w.unanswered u -
      (if (w.find? id).isSome then 0 else u.weight id ^ 2) := by
  have hsplit : (w.insert id a).unanswered u = w.unanswered u -
      (if (w.find? id).isSome then 0
        else (u.entries.map fun e => if Key.same e.1 id then e.2 ^ 2 else 0).sum) := by
    unfold unanswered
    generalize u.entries = es
    induction es with
    | nil => simp
    | cons e es ih =>
      simp only [List.map_cons, List.sum_cons]
      rw [ih, find?_insert, same_comm id e.1]
      by_cases he : Key.same e.1 id = true
      · rw [find?_congr he]
        cases w.find? id <;> simp [he]
      · cases w.find? id with
        | none => simp [he, add_sub_assoc]
        | some b => simp [he]
  rw [hsplit, sum_same_eq hu]

/-- **Filing a weight** changes the distance at its id only. -/
theorem distSq_insert (w : WeightMap ι K) {u : WeightMap ι K} (hu : u.DistinctKeys) (id : ι)
    (a : K) :
    (w.insert id a).distSq u =
      w.distSq u + (a - u.weight id) ^ 2 - (w.weight id - u.weight id) ^ 2 := by
  rw [distSq, distSq, answered_insert, unanswered_insert w hu]
  cases h : w.find? id with
  | none =>
    have hw : w.weight id = 0 := by rw [weight, h, Option.getD_none]
    simp only [Option.isSome_none, Bool.false_eq_true, if_false, hw]
    ring
  | some b =>
    simp only [Option.isSome_some, if_true]
    ring

theorem dot_insert_of_ne (w : WeightMap ι K) {id : ι} (a : K) {x : Features ι K}
    (h : ∀ f ∈ x, Key.same id f.id = false) : (w.insert id a).dot x = w.dot x := by
  unfold dot
  refine congrArg List.sum (List.map_congr_left fun f hf => ?_)
  rw [weight_insert, h f hf, if_neg Bool.false_ne_true]

/-- **Moving along an example** changes the distance by what the scores and the norm say. -/
theorem distSq_moved (w : WeightMap ι K) {u : WeightMap ι K} (hu : u.DistinctKeys) (c : K)
    {x : Features ι K} (hx : DistinctIds x) :
    (w.moved c x).distSq u =
      w.distSq u + 2 * c * (w.dot x - u.dot x) + c ^ 2 * squaredNorm x := by
  induction x generalizing w with
  | nil => simp [moved, dot, squaredNorm]
  | cons f fs ih =>
    obtain ⟨hhead, htail⟩ := List.pairwise_cons.1 hx
    have hmoved : w.moved c (f :: fs) =
        (w.insert f.id (w.weight f.id + c * f.value)).moved c fs := rfl
    have hcons : ∀ v : WeightMap ι K, v.dot (f :: fs) = v.weight f.id * f.value + v.dot fs :=
      fun v => by simp [dot]
    have hnorm : squaredNorm (f :: fs) = f.value * f.value + squaredNorm fs := by
      simp [squaredNorm]
    rw [hmoved, ih _ htail, distSq_insert w hu, dot_insert_of_ne w _ hhead, hcons, hcons, hnorm]
    ring

end WeightMap
end PassiveAggressive

import PassiveAggressive.Proofs.Exact.Distance
import PassiveAggressive.Proofs.Exact.Step
import PassiveAggressive.Proofs.Session.Replay

/-!
# Predictions in terms of the examples

The weights are never needed to know what a session predicts.  Every one of them is a sum
of signed step sizes times values of examples that were met, so a score is the same sum
taken the other way round: over the moves, the signed step size times the inner product of
the example that was met with the one that is scored (`predict_eq_dual`).

The inner product of two examples (`overlap`) runs over all pairs of features whose ids are
the same key.  An id may occur several times in either example, be spelt differently in the
two, or occur in one only; the sum over pairs is right in every case, and this is what the
weights, which are read and filed one id at a time, have to be shown to come to.  One move
is exchanged with the sum at a time (`dot_moved`), and one feature of the move at a time
within it (`dot_insert_add`).

An example without repeated ids overlaps itself in its squared norm (`overlap_self`).
-/

namespace PassiveAggressive

open Exact

variable {ι K : Type} [Key ι] [Field K]

/-! ## Inner products of examples -/

/-- The inner product of two examples, over all pairs of features whose ids are the same key. -/
def overlap (x z : Features ι K) : K :=
  (x.map fun f => (z.map fun g => if Key.same f.id g.id then f.value * g.value else 0).sum).sum

@[simp] theorem overlap_nil (z : Features ι K) : overlap [] z = 0 := rfl

theorem overlap_cons (f : Feature ι K) (x z : Features ι K) :
    overlap (f :: x) z =
      (z.map fun g => if Key.same f.id g.id then f.value * g.value else 0).sum + overlap x z := rfl

theorem sum_eq_zero_of_ne {id : ι} {x : Features ι K} (h : ∀ g ∈ x, Key.same id g.id = false)
    (a : K) : (x.map fun g => if Key.same id g.id then a * g.value else 0).sum = 0 := by
  apply List.sum_eq_zero
  intro b hb
  obtain ⟨g, hg, rfl⟩ := List.mem_map.1 hb
  rw [h g hg, if_neg Bool.false_ne_true]

variable [LawfulKey ι]

/-- In an example whose ids are different keys, a feature is paired with itself only. -/
theorem sum_pairs_eq {x : Features ι K} (hx : DistinctIds x)
    (hself : ∀ f ∈ x, Key.same f.id f.id = true) {f : Feature ι K} (hf : f ∈ x) :
    (x.map fun g => if Key.same f.id g.id then f.value * g.value else 0).sum =
      f.value * f.value := by
  induction x with
  | nil => exact absurd hf List.not_mem_nil
  | cons e es ih =>
      obtain ⟨hhead, htail⟩ := List.pairwise_cons.1 hx
      rw [List.map_cons, List.sum_cons]
      rcases List.mem_cons.1 hf with rfl | hmem
      · rw [sum_eq_zero_of_ne hhead, hself f List.mem_cons_self, if_pos rfl, add_zero]
      · have hne : Key.same f.id e.id = false := by
          rw [WeightMap.same_comm]
          exact hhead f hmem
        rw [hne, if_neg Bool.false_ne_true, zero_add]
        exact ih htail (fun g hg => hself g (List.mem_cons_of_mem _ hg)) hmem

/-- **An example without repeated ids** overlaps itself in its squared norm. -/
theorem overlap_self {x : Features ι K} (hx : DistinctIds x)
    (hself : ∀ f ∈ x, Key.same f.id f.id = true) : overlap x x = squaredNorm x :=
  congrArg List.sum (List.map_congr_left fun _ hf => sum_pairs_eq hx hself hf)

/-! ## Scores of moved weights -/

namespace WeightMap

omit [LawfulKey ι] in
@[simp] theorem dot_empty (z : Features ι K) : (empty : WeightMap ι K).dot z = 0 := by
  apply List.sum_eq_zero
  intro a ha
  obtain ⟨g, -, rfl⟩ := List.mem_map.1 ha
  simp [weight]

/-- A weight that is added to is seen once by every feature with the same key. -/
theorem dot_insert_add (w : WeightMap ι K) (id : ι) (d : K) (z : Features ι K) :
    (w.insert id (w.weight id + d)).dot z =
      w.dot z + (z.map fun g => if Key.same id g.id then d * g.value else 0).sum := by
  unfold dot
  rw [← List.sum_map_add]
  refine congrArg List.sum (List.map_congr_left fun g _ => ?_)
  rw [weight_insert]
  by_cases h : Key.same id g.id = true
  · rw [if_pos h, if_pos h, weight_congr h]
    ring
  · rw [if_neg h, if_neg h, add_zero]

/-- **A move changes a score** by the inner product of the two examples. -/
theorem dot_moved (w : WeightMap ι K) (c : K) (x z : Features ι K) :
    (w.moved c x).dot z = w.dot z + c * overlap x z := by
  induction x generalizing w with
  | nil => simp [moved]
  | cons f fs ih =>
      have hrow : (z.map fun g => if Key.same f.id g.id then c * f.value * g.value else 0).sum =
          c * (z.map fun g => if Key.same f.id g.id then f.value * g.value else 0).sum := by
        rw [← List.sum_map_mul_left]
        refine congrArg List.sum (List.map_congr_left fun g _ => ?_)
        rw [mul_ite, mul_zero, mul_assoc]
      show ((w.insert f.id (w.weight f.id + c * f.value)).moved c fs).dot z = _
      rw [ih, dot_insert_add, hrow, overlap_cons]
      ring

end WeightMap

/-! ## A whole stream -/

variable [LinearOrder K] [SquareRoot K]

/-- The score of an example that a list of moves comes to: over the moves, the signed step size that
was reported times the inner product with the example that was met. -/
def dualScore (z : Features ι K) : List (Example ι K × Outcome (Exact K)) → Option K
  | [] => some 0
  | (e, o) :: ms => do
    let coeff ← o.coeff.finite?
    let rest ← dualScore z ms
    some (coeff * overlap e.1 z + rest)

variable [IsStrictOrderedRing K]

namespace Session

variable {s : Session ι (Exact K)} {w : WeightMap ι K}

/-- From any session in the field, a stream changes a score by what its moves come to. -/
theorem InField.dualScore_feed (hs : s.InField w) (stream : List (Example ι K))
    (z : Features ι K) :
    ∃ (w' : WeightMap ι K) (v : K),
      (s.feed (stream.map (Example.map finite))).1.InField w' ∧
      dualScore z (moves (stream.zip (s.feed (stream.map (Example.map finite))).2)) = some v ∧
      w'.dot z = w.dot z + v := by
  induction stream generalizing s w with
  | nil => exact ⟨w, 0, hs, rfl, (add_zero _).symm⟩
  | cons e rest ih =>
      obtain ⟨x, y⟩ := e
      rw [Example.map_cons, feed_cons, List.zip_cons_cons]
      rcases step_inField hs x y with ⟨epsilon, eta, -, hs', hresult⟩ | ⟨hs', hresult⟩
      · obtain ⟨w', v, hw', hv, hdot⟩ := ih hs'
        have hmoved : moved? (s.step (x.map (Feature.map finite)) (finite y)).2 =
            some (fieldReport w x y epsilon eta) := moved?_eq_some_iff.2 ⟨hresult, rfl⟩
        refine ⟨w', direction (w.dot x) y * eta * overlap x z + v, hw', ?_, ?_⟩
        · rw [moves_cons_of_some hmoved, dualScore, hv]
          rfl
        · rw [hdot, w.dot_moved, add_assoc]
      · obtain ⟨w', v, hw', hv, hdot⟩ := ih hs'
        refine ⟨w', v, hw', ?_, hdot⟩
        rw [moves_cons_of_none (moved?_eq_none_iff.2 hresult), hv]

/-- **The dual form of a prediction.**  Over exact numbers, for every variant, aggressiveness and
margin, feed a stream to a new session.  What it predicts then, for any features whose ids are keys,
is the sum over the updates it has reported of the signed step size times the inner product of the
example with these features. -/
theorem predict_eq_dual {settings : Settings (Exact K)} {epsilon : K}
    (hepsilon : settings.epsilon = finite epsilon) (hs : create settings = .ok s)
    (stream : List (Example ι K)) {z : Features ι K} (hz : ∀ g ∈ z, Key.check g.id = .ok ()) :
    ∃ v : K,
      dualScore z (moves (stream.zip (s.feed (stream.map (Example.map finite))).2)) = some v ∧
      (s.feed (stream.map (Example.map finite))).1.predict (z.map (Feature.map finite)) =
        .ok (finite v) := by
  obtain ⟨w, v, hw, hv, hdot⟩ := (inField_of_create hepsilon hs).dualScore_feed stream z
  refine ⟨v, hv, ?_⟩
  rw [WeightMap.dot_empty, zero_add] at hdot
  rw [predict, hw.weights_eq, w.score_exact hz, hdot]

/-- An id that occurs twice in an example, in two spellings, and features to be predicted that know
it in a third one, next to an id that has not been met. -/
theorem predict_eq_dual_respelt :
    ∃ (s : Session Value (Exact ℝ)) (stream : List (Example Value ℝ)) (z : Features Value ℝ)
      (v : ℝ),
      create ⟨.pa2, none, finite (1 / 10)⟩ = .ok s ∧
      stream = [([⟨.int 1, 1⟩, ⟨.bool true, 2⟩, ⟨.text "a", 1⟩], 4), ([⟨.text "a", 3⟩], -1)] ∧
      z = [⟨.float (Number.ofInt 1), 2⟩, ⟨.text "b", 1⟩, ⟨.text "a", 1⟩, ⟨.text "a", 1⟩] ∧
      dualScore z (moves (stream.zip (s.feed (stream.map (Example.map finite))).2)) = some v ∧
      (s.feed (stream.map (Example.map finite))).1.predict (z.map (Feature.map finite)) =
        .ok (finite v) := by
  obtain ⟨s, hs⟩ : ∃ s : Session Value (Exact ℝ), create ⟨.pa2, none, finite (1 / 10)⟩ = .ok s :=
    exists_create (.inr ⟨1, one_pos, rfl⟩)
  have hz : ∀ g ∈ ([⟨.float (Number.ofInt 1), 2⟩, ⟨.text "b", 1⟩, ⟨.text "a", 1⟩,
      ⟨.text "a", 1⟩] : Features Value ℝ), Key.check g.id = .ok () := by
    decide +kernel
  obtain ⟨v, hv⟩ := predict_eq_dual rfl hs
    [([⟨.int 1, 1⟩, ⟨.bool true, 2⟩, ⟨.text "a", 1⟩], 4), ([⟨.text "a", 3⟩], -1)] hz
  exact ⟨s, _, _, v, hs, rfl, rfl, hv⟩

end Session
end PassiveAggressive

import Mathlib.Algebra.BigOperators.Group.List.Basic
import Mathlib.Algebra.Order.BigOperators.Group.List
import Mathlib.Algebra.Order.Group.Unbundled.Abs
import Mathlib.Data.Int.CharZero
import PassiveAggressive.Proofs.Exact.Number
import PassiveAggressive.Proofs.Session.Course
import PassiveAggressive.Proofs.Weights.Scoring

/-!
# The learner over exact numbers

Over the numbers of a field each part of the learner is a formula: the score is an
inner product (`WeightMap.dot`), the loss a maximum (`excess`), the step size a quotient
with a cap or a softened one (`StepRule.stride`), the tracker and the weights are updated by
field operations (`Spread.taking`, `WeightMap.moved`).  One lemma for each function of the
learner says so, and after it the function is not opened again.

A session is `InField` at weights `w` when all its numbers are numbers of the field,
`w` its weights, except that the aggressiveness may be infinite.
`step_inField` is what the module is for: an example whose numbers are in the field
leaves the session in the field, and either the weights are as they were or they have
moved along the example by a step size that is not negative, in the direction of the
target.
-/

namespace PassiveAggressive

variable {ι K : Type}

section Formulas

variable [Field K]

/-- The sum of the squares of the values of an example. -/
def squaredNorm (x : Features ι K) : K := (x.map fun f => f.value * f.value).sum

variable [Key ι]

namespace WeightMap

/-- The weight of an id, zero if none is filed under it. -/
def weight (w : WeightMap ι K) (id : ι) : K := (w.find? id).getD 0

/-- The inner product of weights and an example. -/
def dot (w : WeightMap ι K) (x : Features ι K) : K :=
  (x.map fun f => w.weight f.id * f.value).sum

/-- The weights moved along an example. -/
def moved (w : WeightMap ι K) (c : K) (x : Features ι K) : WeightMap ι K :=
  x.foldl (fun w f => w.insert f.id (w.weight f.id + c * f.value)) w

end WeightMap

namespace Spread

/-- The same spread with its numbers rewritten. -/
def map {α β : Type} (g : α → β) (t : Spread α) : Spread β :=
  ⟨t.count, g t.mean, g t.sumSqDiff⟩

/-- The spread with one more value. -/
def taking (t : Spread K) (y : K) : Spread K :=
  let mean := t.mean + (y - t.mean) / ((t.count + 1 : ℕ) : K)
  ⟨t.count + 1, mean, t.sumSqDiff + (y - t.mean) * (y - mean)⟩

end Spread

variable [LinearOrder K]

/-- What a distance exceeds the margin by, zero if it does not. -/
def excess (predicted target epsilon : K) : K := max (|predicted - target| - epsilon) 0

/-- The direction from a prediction to the target. -/
def direction (predicted target : K) : K := if 0 < target - predicted then 1 else -1

/-- What a softened step adds to the squared norm: half over the aggressiveness. -/
def softening (a : K) : K := 1 / (1 + 1) / a

/-- The step size for a loss on an example of the given squared norm, as a formula. -/
def StepRule.stride (rule : StepRule) (loss norm : K) : Exact K → Exact K
  | .finite a =>
    match rule with
    | capped => .finite (if norm = 0 then a else min a (loss / norm))
    | softened => .finite (loss / (norm + softening a))
  | _ => if norm = 0 then .infinite false else .finite (loss / norm)

end Formulas

variable [Key ι] [Field K] [LinearOrder K] [SquareRoot K]

namespace Exact

/-- An aggressiveness in force: a positive number, or no bound at all. -/
def Positive (c : Exact K) : Prop := c = infinite false ∨ ∃ a, 0 < a ∧ c = finite a

omit [SquareRoot K] in
theorem pos_of_positive {a : K} (h : (finite a).Positive) : 0 < a := by
  rcases h with h | ⟨b, hb, h⟩
  · cases h
  · cases h
    exact hb

theorem positive_of_isPositive {c : Exact K} (h : Arithmetic.isPositive c = .ok true) :
    c.Positive := by
  cases c with
  | finite a =>
    rw [isPositive_finite, Except.ok.injEq, decide_eq_true_eq] at h
    exact .inr ⟨a, h, rfl⟩
  | infinite negative =>
    cases negative with
    | false => exact .inl rfl
    | true => cases h
  | nan => cases h

end Exact

open Exact

/-! ## Scoring and moving -/

namespace WeightMap

theorem get_exact (w : WeightMap ι K) {id : ι} (h : Key.check id = .ok ()) :
    (w.map finite).get id = .ok (finite (w.weight id)) := by
  unfold get weight
  rw [h, ok_bind, find?_map]
  cases w.find? id <;> rfl

theorem addFeature_exact (w : WeightMap ι K) (p n : K) {f : Feature ι K}
    (h : Key.check f.id = .ok ()) :
    (w.map finite).addFeature ⟨finite p, finite n⟩ (f.map finite) =
      .ok ⟨finite (p + w.weight f.id * f.value), finite (n + f.value * f.value)⟩ := by
  simp only [addFeature, addToScore, addToNorm, Feature.map, get_exact w h, ok_bind, mul_finite,
    add_finite]

/-- The score is the inner product. -/
theorem scoreAndNorm_exact (w : WeightMap ι K) {x : Features ι K}
    (h : ∀ f ∈ x, Key.check f.id = .ok ()) :
    (w.map finite).scoreAndNorm (x.map (Feature.map finite)) =
      .ok ⟨finite (w.dot x), finite (squaredNorm x)⟩ := by
  -- the sums are started anywhere, so that the induction goes through
  suffices hsum : ∀ p n : K,
      (x.map (Feature.map finite)).foldlM (w.map finite).addFeature ⟨finite p, finite n⟩ =
        .ok ⟨finite (p + w.dot x), finite (n + squaredNorm x)⟩ by
    have := hsum 0 0
    rwa [zero_add, zero_add] at this
  induction x with
  | nil => intro p n; simp [dot, squaredNorm]; rfl
  | cons f fs ih =>
    intro p n
    rw [List.map_cons, List.foldlM_cons, addFeature_exact w p n (h f List.mem_cons_self), ok_bind,
      ih fun g hg => h g (List.mem_cons_of_mem _ hg)]
    simp only [dot, squaredNorm, List.map_cons, List.sum_cons, add_assoc]

/-- The score alone is the inner product as well. -/
theorem score_exact (w : WeightMap ι K) {x : Features ι K}
    (h : ∀ f ∈ x, Key.check f.id = .ok ()) :
    (w.map finite).score (x.map (Feature.map finite)) = .ok (finite (w.dot x)) := by
  suffices hsum : ∀ p : K,
      (x.map (Feature.map finite)).foldlM (w.map finite).addToScore (finite p) =
        .ok (finite (p + w.dot x)) by
    have := hsum 0
    rwa [zero_add] at this
  induction x with
  | nil => intro p; simp [dot]; rfl
  | cons f fs ih =>
    intro p
    have hf : (w.map finite).addToScore (finite p) (f.map finite) =
        .ok (finite (p + w.weight f.id * f.value)) := by
      simp only [addToScore, Feature.map, w.get_exact (h f List.mem_cons_self), ok_bind,
        mul_finite, add_finite]
    rw [List.map_cons, List.foldlM_cons, hf, ok_bind,
      ih fun g hg => h g (List.mem_cons_of_mem _ hg)]
    simp only [dot, List.map_cons, List.sum_cons, add_assoc]

theorem insert_exact (w : WeightMap ι K) {id : ι} (h : Key.check id = .ok ()) (d : K) :
    (w.map finite).add id (finite d) = .ok ((w.insert id (w.weight id + d)).map finite) := by
  unfold add
  rw [get_exact w h, ok_bind, add_finite, ok_bind, insert_map]

end WeightMap

/-- The weights move all the way along an example whose ids are keys. -/
theorem moveAlong_exact (w : WeightMap ι K) (c : K) {x : Features ι K}
    (h : ∀ f ∈ x, Key.check f.id = .ok ()) :
    Session.moveAlong (w.map finite) (finite c) (x.map (Feature.map finite)) =
      ((w.moved c x).map finite, .ok ()) := by
  induction x generalizing w with
  | nil => rfl
  | cons f fs ih =>
    rw [List.map_cons, Session.moveAlong]
    simp only [Feature.map, mul_finite, ok_bind, w.insert_exact (h f List.mem_cons_self)]
    exact ih _ fun g hg => h g (List.mem_cons_of_mem _ hg)

/-! ## The spread -/

variable [IsStrictOrderedRing K]

theorem Spread.observe_exact (t : Spread K) (y : K) :
    (t.map finite).observe (finite y) = ((t.taking y).map finite, .ok ()) := by
  have hcount : ((t.count + 1 : ℕ) : K) ≠ 0 := Nat.cast_ne_zero.2 (Nat.succ_ne_zero _)
  have hcast : (((t.count + 1 : ℕ) : ℤ) : K) = ((t.count + 1 : ℕ) : K) := Int.cast_natCast _
  simp only [observe, moveMean, growSum, map, sub_finite, ofInt_eq, ok_bind, hcast,
    div_finite _ hcount, add_finite, mul_finite]
  rfl

/-- A deviation, where there is one, is a number. -/
theorem Spread.deviation_exact (t : Spread K) {d : Exact K}
    (h : (t.map finite).deviation = .ok d) : ∃ e : K, d = finite e := by
  obtain ⟨v, hv, hd⟩ := bind_eq_ok_iff.1 h
  have hnum : ∃ a : K, v = finite a := by
    unfold variance at hv
    split at hv
    · cases hv
      exact ⟨0, rfl⟩
    · rename_i hcount
      have hne : (((t.count : ℤ) - 1 : ℤ) : K) ≠ 0 := by
        have : (t.count : ℤ) - 1 ≠ 0 := by
          change ¬ t.count < 2 at hcount
          omega
        exact Int.cast_ne_zero.2 this
      change Arithmetic.div (finite t.sumSqDiff) (Arithmetic.ofInt ((t.count : ℤ) - 1)) = _ at hv
      rw [ofInt_eq, div_finite _ hne] at hv
      cases hv
      exact ⟨_, rfl⟩
  obtain ⟨a, rfl⟩ := hnum
  change (if decide (a < 0) = true then _ else _) = _ at hd
  split at hd
  · cases hd
  · cases hd
    exact ⟨_, rfl⟩

/-! ## Loss and step size -/

theorem insensitiveLoss_exact (p y e : K) :
    insensitiveLoss (finite p) (finite y) (finite e) = .ok (finite (excess p y e)) := by
  simp only [insensitiveLoss, sub_finite, ok_bind, abs_finite, isPositive_finite, excess]
  by_cases h : 0 < |p - y| - e
  · simp [h, max_eq_left h.le]
  · simp [h, max_eq_right (not_lt.1 h)]

omit [SquareRoot K] [IsStrictOrderedRing K] in
theorem direction_eq_or (p y : K) : direction p y = 1 ∨ direction p y = -1 := by
  unfold direction
  split
  · exact .inl rfl
  · exact .inr rfl

omit [SquareRoot K] [IsStrictOrderedRing K] in
theorem direction_sq (p y : K) : direction p y ^ 2 = 1 := by
  rcases direction_eq_or p y with h | h
  · rw [h, one_pow]
  · rw [h, neg_one_sq]

omit [SquareRoot K] in
theorem abs_direction (p y : K) : |direction p y| = 1 := by
  rcases direction_eq_or p y with h | h
  · rw [h, abs_one]
  · rw [h, abs_neg, abs_one]

omit [SquareRoot K] in
theorem direction_mul_sub (p y : K) : direction p y * (y - p) = |p - y| := by
  unfold direction
  split
  · rename_i h
    rw [one_mul, abs_of_neg (sub_neg.2 (sub_pos.1 h)), neg_sub]
  · rename_i h
    rw [neg_one_mul, neg_sub, abs_of_nonneg (sub_nonneg.2 (sub_nonpos.1 (not_lt.1 h)))]

omit [Key ι] [SquareRoot K] in
theorem nonneg_of_mem_squares {x : Features ι K} {b : K}
    (h : b ∈ x.map fun f => f.value * f.value) : 0 ≤ b := by
  obtain ⟨f, -, rfl⟩ := List.mem_map.1 h
  exact mul_self_nonneg _

omit [Key ι] [SquareRoot K] in
theorem squaredNorm_nonneg (x : Features ι K) : 0 ≤ squaredNorm x :=
  List.sum_nonneg fun _ => nonneg_of_mem_squares

omit [Key ι] [SquareRoot K] in
theorem squaredNorm_eq_zero_iff {x : Features ι K} :
    squaredNorm x = 0 ↔ ∀ f ∈ x, f.value = 0 := by
  constructor
  · intro h f hf
    have hsquare : f.value * f.value = 0 := List.all_zero_of_le_zero_le_of_sum_eq_zero
      (fun _ => nonneg_of_mem_squares) h (List.mem_map_of_mem hf)
    exact mul_self_eq_zero.1 hsquare
  · intro h
    refine List.sum_eq_zero fun b hb => ?_
    obtain ⟨f, hf, rfl⟩ := List.mem_map.1 hb
    rw [h f hf, mul_zero]

omit [Key ι] [SquareRoot K] [IsStrictOrderedRing K] in
theorem excess_nonneg (p y e : K) : 0 ≤ excess p y e := le_max_right _ _

/-! ## Step sizes -/

section StepSizes

omit [Key ι] [SquareRoot K] in
theorem softening_pos {a : K} (ha : 0 < a) : 0 < softening a :=
  div_pos (div_pos one_pos (add_pos one_pos one_pos)) ha

omit [IsStrictOrderedRing K] in
theorem quotientOrInfinity_exact (l n : K) :
    quotientOrInfinity (finite l) (finite n) =
      .ok (if n = 0 then infinite false else finite (l / n)) := by
  unfold quotientOrInfinity
  by_cases h : n = 0
  · simp [h]
  · simp [h, div_finite l h]

variable (rule : StepRule) {l n : K} {c : Exact K}

namespace StepRule

omit [Key ι] [SquareRoot K] [IsStrictOrderedRing K] in
theorem stride_infinite (l n : K) (negative : Bool) :
    rule.stride l n (infinite negative) =
      if n = 0 then infinite false else finite (l / n) := rfl

omit [Key ι] [SquareRoot K] in
/-- A stride is infinite, or a number that is not negative. -/
theorem stride_cases (hl : 0 ≤ l) (hn : 0 ≤ n) (hc : c.Positive) :
    rule.stride l n c = infinite false ∨ ∃ τ, 0 ≤ τ ∧ rule.stride l n c = finite τ := by
  rcases hc with rfl | ⟨a, ha, rfl⟩
  · rw [stride_infinite]
    by_cases h : n = 0
    · exact .inl (if_pos h)
    · exact .inr ⟨_, div_nonneg hl hn, if_neg h⟩
  · cases rule with
    | capped =>
      refine .inr ⟨_, ?_, rfl⟩
      split
      · exact ha.le
      · exact le_min ha.le (div_nonneg hl hn)
    | softened =>
      exact .inr ⟨_, div_nonneg hl (add_nonneg hn (softening_pos ha).le), rfl⟩

/-- **The step size is the stride.** -/
theorem size_exact (l : K) (hn : 0 ≤ n) (hc : c.Positive) :
    rule.size (finite l) (finite n) c = .ok (rule.stride l n c) := by
  cases rule with
  | capped =>
    rw [size, quotientOrInfinity_exact, ok_bind]
    rcases hc with rfl | ⟨a, -, rfl⟩
    · -- the cap is infinite, and only a finite quotient is less
      rw [stride_infinite]
      by_cases h : n = 0
      · rw [if_pos h]
        rfl
      · rw [if_neg h]
        rfl
    · by_cases h : n = 0
      · rw [stride, if_pos h, if_pos h]
        rfl
      · rw [stride, if_neg h, if_neg h]
        simp only [Arithmetic.least, lt_finite, ok_bind, decide_eq_true_eq]
        by_cases hlt : l / n < a
        · rw [if_pos hlt, min_eq_right hlt.le]
        · rw [if_neg hlt, min_eq_left (not_lt.1 hlt)]
  | softened =>
    rcases hc with rfl | ⟨a, ha, rfl⟩
    · have hzero : Arithmetic.div (Arithmetic.half : Exact K) (infinite false) =
          .ok (finite 0) := rfl
      simp only [size, hzero, ok_bind, add_finite, add_zero, quotientOrInfinity_exact,
        stride_infinite]
    · have hpos : 0 < n + softening a := add_pos_of_nonneg_of_pos hn (softening_pos ha)
      have hhalf : Arithmetic.div (Arithmetic.half : Exact K) (finite a) =
          .ok (finite (softening a)) := div_finite _ ha.ne'
      simp only [size, hhalf, ok_bind, add_finite, quotientOrInfinity_exact, if_neg hpos.ne',
        stride]

end StepRule

omit [Key ι] [IsStrictOrderedRing K] in
theorem stepSize_of_size {s : Session ι (Exact K)} {norm loss eta : Exact K}
    (h : s.settings.variant.rule.size loss norm s.aggressiveness = .ok eta) (p y : K) :
    s.stepSize ⟨finite p, norm⟩ (finite y) loss =
      (Arithmetic.mul (finite (direction p y)) eta).map fun coeff => (eta, coeff) := by
  have hsign : (Arithmetic.ofInt (if decide (0 < y - p) = true then 1 else -1) : Exact K) =
      finite (direction p y) := by
    rw [ofInt_eq, direction]
    by_cases h : 0 < y - p
    · simp [h]
    · simp [h]
  simp only [Session.stepSize, sub_finite, isPositive_finite, ok_bind, hsign, h]
  rfl

omit [Key ι] in
theorem stepSize_exact {s : Session ι (Exact K)} (hc : s.aggressiveness.Positive) (hn : 0 ≤ n)
    (p y l : K) :
    s.stepSize ⟨finite p, finite n⟩ (finite y) (finite l) =
      (Arithmetic.mul (finite (direction p y))
        (s.settings.variant.rule.stride l n s.aggressiveness)).map
          fun coeff => (s.settings.variant.rule.stride l n s.aggressiveness, coeff) :=
  stepSize_of_size (s.settings.variant.rule.size_exact l hn hc) p y

theorem direction_mul_infinite (p y : K) :
    (Arithmetic.mul (finite (direction p y)) (infinite false) : Except Fault (Exact K)) =
      .ok (infinite (decide (direction p y < 0))) := by
  have hne : direction p y ≠ 0 := by
    rcases direction_eq_or p y with h | h
    · rw [h]
      exact one_ne_zero
    · rw [h]
      exact neg_ne_zero.2 one_ne_zero
  change Except.ok (if direction p y = 0 then _ else _) = _
  rw [if_neg hne, Bool.false_bne]

end StepSizes

/-! ## A step of a session -/

/-- An update in the field: the margin that was in force and the step size. -/
structure FieldUpdate (w : WeightMap ι K) (x : Features ι K) (y epsilon eta : K) : Prop where
  isKey : ∀ f ∈ x, Key.check f.id = .ok ()
  loss_pos : 0 < excess (w.dot x) y epsilon
  eta_nonneg : 0 ≤ eta

/-- What is reported of an update in the field. -/
def fieldReport (w : WeightMap ι K) (x : Features ι K) (y epsilon eta : K) : Outcome (Exact K) :=
  ⟨.updated, finite (w.dot x), finite (squaredNorm x), finite (excess (w.dot x) y epsilon),
    finite epsilon, finite eta, finite (direction (w.dot x) y * eta)⟩

namespace Session

/-- The numbers of the session are numbers of the field, except perhaps for the aggressiveness,
and its weights are `w`. -/
structure InField (s : Session ι (Exact K)) (w : WeightMap ι K) : Prop where
  weights_eq : s.weights = w.map finite
  epsilon_finite : ∃ e : K, s.settings.epsilon = finite e
  aggressive : s.aggressiveness.Positive
  spread_finite : ∃ t : Option (Spread K), s.spread = t.map (Spread.map finite)

variable {s : Session ι (Exact K)} {w : WeightMap ι K}

omit [Key ι] [IsStrictOrderedRing K] in
theorem aggressive_of_create {settings : Settings (Exact K)} (h : create settings = .ok s) :
    s.aggressiveness.Positive := by
  obtain ⟨c, hc, hs⟩ := bind_eq_ok_iff.1 h
  cases hs
  refine positive_of_isPositive ?_
  simp only [Settings.resolvedAggressiveness] at hc
  split at hc
  · cases hc
    assumption
  · cases hc

omit [Key ι] [IsStrictOrderedRing K] in
theorem inField_of_create {settings : Settings (Exact K)} {e : K}
    (he : settings.epsilon = finite e) (h : create settings = .ok s) : s.InField .empty := by
  have hc := aggressive_of_create h
  obtain ⟨c, -, hs⟩ := bind_eq_ok_iff.1 h
  cases hs
  refine ⟨rfl, ⟨e, he⟩, hc, ?_⟩
  by_cases ha : settings.variant.adaptive = true
  · exact ⟨some ⟨0, 0, 0⟩, by simp only [ha, if_true]; rfl⟩
  · exact ⟨none, by simp only [ha, if_false, Bool.false_eq_true]; rfl⟩

omit [Key ι] in
theorem InField.measuring (hs : s.InField w) (y : K) (counters : Counters) :
    ({ s.measuring (finite y) with counters } : Session ι (Exact K)).InField w := by
  obtain ⟨hw, he, hc, t, ht⟩ := hs
  refine ⟨hw, he, hc, t.map (Spread.taking · y), ?_⟩
  cases t with
  | none => simp [Session.measuring, spreadAfter, ht]
  | some t => simp [Session.measuring, spreadAfter, ht, Spread.observe_exact]

omit [Key ι] in
/-- The margin in force is a number. -/
theorem InField.margin_finite (hs : s.InField w) {y : K} {epsilon : Exact K}
    (h : (s.margin (finite y)).2 = .ok epsilon) : ∃ e : K, epsilon = finite e := by
  obtain ⟨-, ⟨e, he⟩, -, t, ht⟩ := hs
  cases t with
  | none =>
    simp only [margin, ht, Option.map_none, he] at h
    exact ⟨e, (Except.ok.inj h).symm⟩
  | some t =>
    simp only [margin, ht, Option.map_some, Spread.observe_exact, ok_bind] at h
    obtain ⟨d, hd, h⟩ := bind_eq_ok_iff.1 h
    obtain ⟨d, rfl⟩ := Spread.deviation_exact _ hd
    rw [he, mul_finite] at h
    exact ⟨_, (Except.ok.inj h).symm⟩

omit [Key ι] in
/-- The step size is infinite, or leads in the direction of the target. -/
theorem InField.stepSize_eq (hs : s.InField w) {p n y l : K} (hl : 0 ≤ l) (hn : 0 ≤ n)
    {eta coeff : Exact K}
    (h : s.stepSize ⟨finite p, finite n⟩ (finite y) (finite l) = .ok (eta, coeff)) :
    (∃ negative, coeff = infinite negative) ∨
      ∃ τ : K, 0 ≤ τ ∧ eta = finite τ ∧ coeff = finite (direction p y * τ) := by
  rw [stepSize_exact hs.aggressive hn] at h
  rcases s.settings.variant.rule.stride_cases hl hn hs.aggressive with hstride | ⟨τ, hτ, hstride⟩
  · left
    rw [hstride, direction_mul_infinite] at h
    cases h
    exact ⟨_, rfl⟩
  · right
    rw [hstride, mul_finite] at h
    cases h
    exact ⟨τ, hτ, rfl, rfl⟩

/-- **A step stays in the field**, and the weights are moved if it reports an update and are left
alone if it does not. -/
theorem step_inField (hs : s.InField w) (x : Features ι K) (y : K) :
    (∃ e η : K, FieldUpdate w x y e η ∧
      (s.step (x.map (Feature.map finite)) (finite y)).1.InField
        (w.moved (direction (w.dot x) y * η) x) ∧
      (s.step (x.map (Feature.map finite)) (finite y)).2 = .ok (fieldReport w x y e η)) ∨
    ((s.step (x.map (Feature.map finite)) (finite y)).1.InField w ∧
      ∀ o, (s.step (x.map (Feature.map finite)) (finite y)).2 = .ok o → o.status ≠ .updated) := by
  have hkeys : ∀ {seen}, s.weights.scoreAndNorm (x.map (Feature.map finite)) = .ok seen →
      ∀ f ∈ x, Key.check f.id = .ok () := fun h f hf =>
    WeightMap.check_of_scoreAndNorm h _ (List.mem_map_of_mem hf)
  have hmeas := hs.measuring y
  have hsteps := stepsTo_step s (x.map (Feature.map finite)) (finite y)
  revert hsteps
  generalize s.step (x.map (Feature.map finite)) (finite y) = r
  obtain ⟨s', r⟩ := r
  intro hsteps
  cases hsteps with
  | finalized h => exact .inr ⟨hs, by simp⟩
  | unscored haccepts h => exact .inr ⟨{ hs with }, by simp⟩
  | unmeasured haccepts hscored h => exact .inr ⟨hmeas _, by simp⟩
  | unjudged haccepts hscored hmargin h => exact .inr ⟨hmeas _, by simp⟩
  | undecided hjudged h => exact .inr ⟨hmeas _, by simp⟩
  | noUpdate hjudged h => exact .inr ⟨hmeas _, by rintro o ⟨⟩; simp⟩
  | unsized hjudged hpos h => exact .inr ⟨hmeas _, by simp⟩
  | skipped hsized h => exact .inr ⟨hmeas _, by rintro o ⟨⟩; simp⟩
  | @stuck seen epsilon loss eta coeff weights f hsized hfinite h =>
    -- the ids have been checked when the example was scored
    obtain ⟨c, rfl⟩ := (isFinite_eq_ok_true_iff coeff).1 hfinite
    rw [hs.weights_eq, moveAlong_exact w c (hkeys hsized.scored)] at h
    cases h
  | @updated seen epsilon loss eta coeff weights hsized hfinite h =>
    left
    have hscored := hsized.scored
    rw [hs.weights_eq, w.scoreAndNorm_exact (hkeys hsized.scored)] at hscored
    cases hscored
    obtain ⟨e, rfl⟩ := hs.margin_finite hsized.margin_eq
    have hloss := hsized.loss_eq
    rw [insensitiveLoss_exact] at hloss
    cases hloss
    have hpos : 0 < excess (w.dot x) y e := by
      simpa using hsized.positive
    rcases hs.stepSize_eq hpos.le (squaredNorm_nonneg x) hsized.size_eq with
      ⟨negative, rfl⟩ | ⟨η, hη, rfl, rfl⟩
    · cases hfinite
    · rw [hs.weights_eq, moveAlong_exact w _ (hkeys hsized.scored)] at h
      cases h
      refine ⟨e, η, ⟨hkeys hsized.scored, hpos, hη⟩, ?_, rfl⟩
      have := hmeas (s.counters.noting .updated)
      exact ⟨rfl, this.epsilon_finite, this.aggressive, this.spread_finite⟩

end Session
end PassiveAggressive

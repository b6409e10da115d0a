import PassiveAggressive.Proofs.Exact.DualForm

/-!
# How far capped steps reach

A capped step moves the weights along its example by the cap at most, however far away the
target is.  So the targets are not needed to say where the weights can be: a weight is not
larger than the cap times what has come in under its id, over the examples that moved the
weights (`abs_weight_le_of_capped`).

A weight is the score of a single feature of value one, and a score changes by the inner
product of the example with the one that is scored.  The bound is therefore proved for
scores, one step at a time (`Capped.exists_step`) and then for a stream (`Capped.exists_feed`),
and the weights are read off at the end.  An id that occurs twice in an example has two values
which may cancel in the inner product; in the bound they count with their absolute values.

The margin is never asked for.  It may be negative, infinite or no number: what is positive is
a loss, and a loss that is infinite is one for which the cap decides.
-/

namespace PassiveAggressive

open Exact

variable {ι K : Type} [Field K] [LinearOrder K] [IsStrictOrderedRing K]

/-! ## The cap -/

/-- **A positive loss has a capped step**, also where the loss is infinite or the example has no
length. -/
theorem StepRule.exists_size_capped [SquareRoot K] {loss : Exact K} {n a : K}
    (hloss : Arithmetic.isPositive loss = .ok true) (hn : 0 ≤ n) (ha : 0 < a) :
    ∃ η, 0 ≤ η ∧ η ≤ a ∧ capped.size loss (finite n) (finite a) = .ok (finite η) := by
  cases loss with
  | finite l =>
      rw [isPositive_finite, Except.ok.injEq, decide_eq_true_eq] at hloss
      refine ⟨_, ?_, ?_, capped.size_exact l hn (.inr ⟨a, ha, rfl⟩)⟩
      · split
        · exact ha.le
        · exact le_min ha.le (div_nonneg hloss.le hn)
      · split
        · exact le_rfl
        · exact min_le_left _ _
  | infinite negative =>
      cases negative with
      | true => cases hloss
      | false =>
          -- the quotient is infinite in either case, and the cap is less
          refine ⟨a, ha.le, le_rfl, ?_⟩
          have hquotient : quotientOrInfinity (infinite false : Exact K) (finite n) =
              .ok (infinite false) := by
            unfold quotientOrInfinity
            by_cases h : n = 0
            · simp [h]
            · simp [h, div_infinite false h, not_lt.2 hn]
          rw [size, hquotient]
          rfl
  | nan => cases hloss

variable [Key ι]

/-! ## What comes in under an id -/

/-- The absolute values that an example has under an id. -/
def intake (id : ι) (x : Features ι K) : K :=
  (x.map fun f => if Key.same f.id id then |f.value| else 0).sum

/-- The inner product with a single feature of value one is at most what comes in under its id. -/
theorem abs_overlap_single_le (id : ι) (x : Features ι K) :
    |overlap x [⟨id, 1⟩]| ≤ intake id x := by
  induction x with
  | nil => simp [intake]
  | cons f fs ih =>
      have hsplit : overlap (f :: fs) [⟨id, 1⟩] =
          (if Key.same f.id id then f.value else 0) + overlap fs [⟨id, 1⟩] := by
        rw [overlap_cons, List.map_singleton, List.sum_singleton, mul_one]
      have hhead : |if Key.same f.id id then f.value else 0| =
          if Key.same f.id id then |f.value| else 0 := by
        split
        · rfl
        · exact abs_zero
      calc |overlap (f :: fs) [⟨id, 1⟩]|
          = |(if Key.same f.id id then f.value else 0) + overlap fs [⟨id, 1⟩]| := by rw [hsplit]
        _ ≤ |if Key.same f.id id then f.value else 0| + |overlap fs [⟨id, 1⟩]| := abs_add_le _ _
        _ ≤ (if Key.same f.id id then |f.value| else 0) + intake id fs := add_le_add hhead.le ih
        _ = intake id (f :: fs) := by rw [intake, intake, List.map_cons, List.sum_cons]

omit [LinearOrder K] [IsStrictOrderedRing K] in
theorem WeightMap.dot_single (w : WeightMap ι K) (id : ι) : w.dot [⟨id, 1⟩] = w.weight id := by
  simp [dot]

variable [SquareRoot K]

/-! ## A session with a cap -/

/-- The steps of the session are capped at a number, and its weights are numbers.  Of the margin
nothing is said. -/
structure Session.Capped (s : Session ι (Exact K)) (a : K) (w : WeightMap ι K) : Prop where
  rule_eq : s.settings.variant.rule = .capped
  cap_eq : s.aggressiveness = finite a
  cap_pos : 0 < a
  weights_eq : s.weights = w.map finite

namespace Session

variable {s : Session ι (Exact K)} {a : K} {w : WeightMap ι K}

omit [Key ι] in
/-- A positive loss has a signed step size, which does not exceed the cap. -/
theorem Capped.exists_coeff (hs : s.Capped a w) {n : K} (hn : 0 ≤ n) {loss : Exact K}
    (hloss : Arithmetic.isPositive loss = .ok true) (p y : K) :
    ∃ eta coeff, |coeff| ≤ a ∧
      s.stepSize ⟨finite p, finite n⟩ (finite y) loss = .ok (eta, finite coeff) := by
  obtain ⟨η, hη, hle, hsize⟩ := StepRule.exists_size_capped hloss hn hs.cap_pos
  rw [← hs.rule_eq, ← hs.cap_eq] at hsize
  refine ⟨_, direction p y * η, ?_, stepSize_of_size hsize p y⟩
  rw [abs_mul, abs_direction, one_mul, abs_of_nonneg hη]
  exact hle

/-- **A capped step** reports a move along the example by at most the cap, or leaves the weights. -/
theorem Capped.exists_step (hs : s.Capped a w) (x : Features ι K) (y : K) :
    (∃ c o, |c| ≤ a ∧
      (s.step (x.map (Feature.map finite)) (finite y)).1.Capped a (w.moved c x) ∧
      moved? (s.step (x.map (Feature.map finite)) (finite y)).2 = some o) ∨
    ((s.step (x.map (Feature.map finite)) (finite y)).1.Capped a w ∧
      moved? (s.step (x.map (Feature.map finite)) (finite y)).2 = none) := by
  have hkeys : ∀ {seen}, s.weights.scoreAndNorm (x.map (Feature.map finite)) = .ok seen →
      ∀ f ∈ x, Key.check f.id = .ok () := fun h f hf =>
    WeightMap.check_of_scoreAndNorm h _ (List.mem_map_of_mem hf)
  have hsteps := stepsTo_step s (x.map (Feature.map finite)) (finite y)
  generalize s.step (x.map (Feature.map finite)) (finite y) = r at hsteps
  obtain ⟨s', r⟩ := r
  cases hsteps with
  | finalized | unscored | unmeasured | unjudged | undecided | noUpdate | unsized | skipped =>
      exact .inr ⟨{ hs with }, rfl⟩
  | stuck hsized hfinite h =>
      -- the ids have been checked when the example was scored
      obtain ⟨c, rfl⟩ := (isFinite_eq_ok_true_iff _).1 hfinite
      rw [hs.weights_eq, moveAlong_exact w c (hkeys hsized.scored)] at h
      cases h
  | updated hsized hfinite h =>
      left
      have hscored := hsized.scored
      rw [hs.weights_eq, w.scoreAndNorm_exact (hkeys hsized.scored)] at hscored
      cases hscored
      obtain ⟨eta, coeff, hle, hsize⟩ :=
        hs.exists_coeff (squaredNorm_nonneg x) hsized.positive (w.dot x) y
      cases hsize.symm.trans hsized.size_eq
      rw [hs.weights_eq, moveAlong_exact w _ (hkeys hsized.scored)] at h
      cases h
      exact ⟨coeff, _, hle, ⟨hs.rule_eq, hs.cap_eq, hs.cap_pos, rfl⟩, rfl⟩

variable [LawfulKey ι]

omit [SquareRoot K] in
theorem abs_dot_moved_sub_le {c : K} (hc : |c| ≤ a) (w : WeightMap ι K) (x z : Features ι K) :
    |(w.moved c x).dot z - w.dot z| ≤ a * |overlap x z| := by
  rw [w.dot_moved, add_sub_cancel_left, abs_mul]
  exact mul_le_mul_of_nonneg_right hc (abs_nonneg _)

/-- **A stream changes a score** by at most the cap times the inner products of the examples that
moved the weights with the one that is scored. -/
theorem Capped.exists_feed (hs : s.Capped a w) (stream : List (Example ι K)) :
    ∃ w', (s.feed (stream.map (Example.map finite))).1.Capped a w' ∧ ∀ z,
      |w'.dot z - w.dot z| ≤ a *
        ((moves (stream.zip (s.feed (stream.map (Example.map finite))).2)).map fun m =>
          |overlap m.1.1 z|).sum := by
  induction stream generalizing s w with
  | nil => exact ⟨w, hs, fun z => by simp [moves]⟩
  | cons e rest ih =>
      obtain ⟨x, y⟩ := e
      rw [Example.map_cons, feed_cons, List.zip_cons_cons]
      rcases hs.exists_step x y with ⟨c, o, hc, hs', hmoved⟩ | ⟨hs', hmoved⟩
      · obtain ⟨w', hw', hle⟩ := ih hs'
        refine ⟨w', hw', fun z => ?_⟩
        rw [moves_cons_of_some hmoved, List.map_cons, List.sum_cons, mul_add, add_comm]
        exact (abs_sub_le _ ((w.moved c x).dot z) _).trans
          (add_le_add (hle z) (abs_dot_moved_sub_le hc w x z))
      · rw [moves_cons_of_none hmoved]
        exact ih hs'

/-- **The cap bounds every weight.**  Over exact numbers, take a session whose steps are capped at a
number `a`, with a fixed or an adaptive margin that may be anything, and feed it any stream, in
which ids may be repeated.  Then every weight is in absolute value at most `a` times the absolute
values that have come in under its id in the examples reported as updates; and whatever the next
example is, and its target, it changes no score by more than `a` times its inner product with the
features that are scored. -/
theorem abs_weight_le_of_capped {settings : Settings (Exact K)}
    (hvariant : settings.variant = .pa1 ∨ settings.variant = .pa1a)
    (hs : create settings = .ok s) (ha : s.aggressiveness = finite a)
    (stream : List (Example ι K)) :
    (∀ id, Key.check id = .ok () → ∃ v,
      (s.feed (stream.map (Example.map finite))).1.weights.get id = .ok (finite v) ∧
      |v| ≤ a * ((moves (stream.zip (s.feed (stream.map (Example.map finite))).2)).map fun m =>
        intake id m.1.1).sum) ∧
    ∀ (x : Features ι K) (y : K) (z : Features ι K), (∀ g ∈ z, Key.check g.id = .ok ()) →
      ∃ p p',
        (s.feed (stream.map (Example.map finite))).1.predict (z.map (Feature.map finite)) =
          .ok (finite p) ∧
        ((s.feed (stream.map (Example.map finite))).1.step (x.map (Feature.map finite))
          (finite y)).1.predict (z.map (Feature.map finite)) = .ok (finite p') ∧
        |p' - p| ≤ a * |overlap x z| := by
  have hcreated : s.Capped a .empty := by
    refine ⟨?_, ha, ?_, ?_⟩
    · rw [eq_of_create hs]
      exact Variant.rule_eq_capped_iff.2 hvariant
    · exact pos_of_positive (ha ▸ aggressive_of_create hs)
    · rw [eq_of_create hs]
      rfl
  obtain ⟨w, hw, hle⟩ := hcreated.exists_feed stream
  constructor
  · intro id hid
    refine ⟨w.weight id, ?_, ?_⟩
    · rw [hw.weights_eq, w.get_exact hid]
    · have hbound := hle [⟨id, 1⟩]
      rw [WeightMap.dot_empty, sub_zero, WeightMap.dot_single] at hbound
      refine hbound.trans (mul_le_mul_of_nonneg_left ?_ hw.cap_pos.le)
      exact List.sum_le_sum fun m _ => abs_overlap_single_le id m.1.1
  · intro x y z hz
    have hpredict : ∀ {s : Session ι (Exact K)} {w : WeightMap ι K}, s.Capped a w →
        s.predict (z.map (Feature.map finite)) = .ok (finite (w.dot z)) := fun hs => by
      rw [predict, hs.weights_eq, WeightMap.score_exact _ hz]
    rcases hw.exists_step x y with ⟨c, o, hc, hw', -⟩ | ⟨hw', -⟩
    · exact ⟨_, _, hpredict hw, hpredict hw', abs_dot_moved_sub_le hc w x z⟩
    · refine ⟨_, _, hpredict hw, hpredict hw', ?_⟩
      rw [sub_self, abs_zero]
      exact mul_nonneg hw.cap_pos.le (abs_nonneg _)

/-- An id that an example holds in two spellings, with values that cancel in part, and targets that
are far away; the weight and the score are asked for in a third spelling. -/
theorem abs_weight_le_of_capped_respelt :
    ∃ (s : Session Value (Exact ℝ)) (stream : List (Example Value ℝ)) (v p p' : ℝ),
      create ⟨.pa1a, some (finite 2), finite (1 / 10)⟩ = .ok s ∧ s.aggressiveness = finite 2 ∧
      stream = [([⟨.int 1, 1⟩, ⟨.bool true, -3⟩], 1000000), ([⟨.text "a", 3⟩], -1)] ∧
      (s.feed (stream.map (Example.map finite))).1.weights.get (.float (Number.ofInt 1)) =
        .ok (finite v) ∧
      |v| ≤ 2 * ((moves (stream.zip (s.feed (stream.map (Example.map finite))).2)).map fun m =>
        intake (.float (Number.ofInt 1)) m.1.1).sum ∧
      (s.feed (stream.map (Example.map finite))).1.predict
        [⟨.float (Number.ofInt 1), finite 2⟩] = .ok (finite p) ∧
      ((s.feed (stream.map (Example.map finite))).1.step [⟨.int 1, finite 5⟩]
        (finite (-1000000))).1.predict [⟨.float (Number.ofInt 1), finite 2⟩] = .ok (finite p') ∧
      |p' - p| ≤ 2 * |overlap [⟨Value.int 1, (5 : ℝ)⟩] [⟨.float (Number.ofInt 1), 2⟩]| := by
  obtain ⟨s, hs⟩ : ∃ s : Session Value (Exact ℝ),
      create ⟨.pa1a, some (finite 2), finite (1 / 10)⟩ = .ok s :=
    exists_create (.inr ⟨2, two_pos, rfl⟩)
  have hcap : s.aggressiveness = finite 2 := aggressiveness_of_create hs
  have hid : Key.check (Value.float (Number.ofInt 1)) = .ok () := by decide +kernel
  have hz : ∀ g ∈ ([⟨.float (Number.ofInt 1), 2⟩] : Features Value ℝ), Key.check g.id = .ok () :=
    List.forall_mem_singleton.2 hid
  obtain ⟨hweights, hscores⟩ := abs_weight_le_of_capped (.inr rfl) hs hcap
    [([⟨.int 1, 1⟩, ⟨.bool true, -3⟩], 1000000), ([⟨.text "a", 3⟩], -1)]
  obtain ⟨v, hv, hle⟩ := hweights _ hid
  obtain ⟨p, p', hp, hp', hmove⟩ := hscores [⟨.int 1, 5⟩] (-1000000) _ hz
  exact ⟨s, _, v, p, p', hs, hcap, rfl, hv, hle, hp, hp', hmove⟩

end Session
end PassiveAggressive

import PassiveAggressive.Proofs.Exact.Spread
import PassiveAggressive.Proofs.Session.SideBySide

/-!
# A step over exact numbers

`step_inField` says that a step over the numbers of a field stays among them.  To follow
what a session does from one example to the next, one has to know which numbers they are.
This module says so: a session is described by its margin, its weights and its spread
(`Session.Holds`), and a step is one of three equations.

* `Holds.step_noUpdate`: the distance does not exceed the margin in force.
* `Holds.step_updated`: the weights move along the example by the stride.
* `Holds.step_skipped`: there is no finite stride, and nothing moves.

The stride (`StepRule.stride`) is the step size of the rule, and the margin in force
(`marginAfter`) the one that was set, or that one times the deviation.  Neither can fail:
the spread is a sum of squares, so its root is there, and the aggressiveness is greater
than zero, so it can be divided by.  What can fail is an id that is no key, and then it
fails before anything is looked at but the ids (`exists_fault_of_unkeyed`).
-/

namespace PassiveAggressive

open Exact

variable {ι K : Type} [Field K] [LinearOrder K] [SquareRoot K] [IsStrictOrderedRing K]

/-! ## What a session holds -/

/-- The margin in force, given the one that was set and the spread. -/
def marginAfter (epsilon : K) : Option (Spread K) → K
  | none => epsilon
  | some t => epsilon * SquareRoot.root t.sampleVariance

theorem marginAfter_nonneg [LawfulSquareRoot K] {epsilon : K} (h : 0 ≤ epsilon)
    {t : Option (Spread K)} (ht : ∀ t' ∈ t, 0 ≤ t'.sumSqDiff) : 0 ≤ marginAfter epsilon t := by
  cases t with
  | none => exact h
  | some t =>
      have hvariance := Spread.sampleVariance_nonneg (ht t rfl)
      exact mul_nonneg h (LawfulSquareRoot.root_nonneg hvariance)

/-- The numbers of a session: the margin that was set, the weights and the spread.  The
aggressiveness may be infinite. -/
structure Session.Holds (s : Session ι (Exact K)) (epsilon : K) (w : WeightMap ι K)
    (t : Option (Spread K)) : Prop where
  epsilon_eq : s.settings.epsilon = finite epsilon
  weights_eq : s.weights = w.map finite
  spread_eq : s.spread = t.map (Spread.map finite)
  aggressive : s.aggressiveness.Positive
  sum_nonneg : ∀ t' ∈ t, 0 ≤ t'.sumSqDiff

namespace Session

variable {s : Session ι (Exact K)} {epsilon : K} {w : WeightMap ι K} {t : Option (Spread K)}

omit [IsStrictOrderedRing K] in
/-- An aggressiveness greater than zero creates a session. -/
theorem exists_create {settings : Settings (Exact K)} (h : (settings.aggressiveness.getD
    (settings.variant.defaultAggressiveness (Exact K))).Positive) :
    ∃ s : Session ι (Exact K), create settings = .ok s := by
  have hpos : Arithmetic.isPositive (settings.aggressiveness.getD
      (settings.variant.defaultAggressiveness (Exact K))) = .ok true := by
    rcases h with h | ⟨a, ha, h⟩
    · rw [h]
      rfl
    · rw [h, isPositive_finite, decide_eq_true ha]
  have hresolved : settings.resolvedAggressiveness = .ok (settings.aggressiveness.getD
      (settings.variant.defaultAggressiveness (Exact K))) := by
    simp only [Settings.resolvedAggressiveness, hpos]
  exact ⟨_, bind_eq_ok_iff.2 ⟨_, hresolved, rfl⟩⟩

omit [IsStrictOrderedRing K] in
/-- A new session holds no weights, and an empty spread if it is adaptive. -/
theorem holds_of_create {settings : Settings (Exact K)} (he : settings.epsilon = finite epsilon)
    (h : create settings = .ok s) :
    s.Holds epsilon .empty (if settings.variant.adaptive then some ⟨0, 0, 0⟩ else none) := by
  have hc := aggressive_of_create h
  obtain ⟨c, -, hs⟩ := bind_eq_ok_iff.1 h
  cases hs
  refine ⟨he, rfl, ?_, hc, ?_⟩
  · by_cases ha : settings.variant.adaptive = true
    · simp only [ha, if_true]
      rfl
    · simp only [ha, if_false, Bool.false_eq_true]
      rfl
  · intro t' ht'
    split at ht'
    · cases ht'
      exact le_rfl
    · cases ht'

omit [SquareRoot K] [IsStrictOrderedRing K] in
theorem Holds.weights_unique (hs : s.Holds epsilon w t) {epsilon' : K}
    {w' : WeightMap ι K} {t' : Option (Spread K)} (hs' : s.Holds epsilon' w' t') : w = w' :=
  WeightMap.map_injective (fun _ _ h => finite.inj h) (hs.weights_eq.symm.trans hs'.weights_eq)

omit [SquareRoot K] [IsStrictOrderedRing K] in
theorem Holds.withWeights (hs : s.Holds epsilon w t) (w' : WeightMap ι K) (phase : Phase)
    (counters : Counters) :
    ({ s with weights := w'.map finite, phase, counters } : Session ι (Exact K)).Holds
      epsilon w' t :=
  ⟨hs.epsilon_eq, rfl, hs.spread_eq, hs.aggressive, hs.sum_nonneg⟩

theorem Holds.measuring (hs : s.Holds epsilon w t) (y : K) :
    (s.measuring (finite y)).Holds epsilon w (t.map (Spread.taking · y)) := by
  refine ⟨hs.epsilon_eq, hs.weights_eq, ?_, hs.aggressive, ?_⟩
  · show s.spreadAfter (finite y) = _
    rw [spreadAfter, hs.spread_eq]
    cases t with
    | none => rfl
    | some t => simp [Spread.observe_exact]
  · intro t' ht'
    obtain ⟨t₀, ht₀, rfl⟩ := Option.map_eq_some_iff.1 ht'
    exact (hs.sum_nonneg t₀ ht₀).trans (t₀.sumSqDiff_le_taking y)

/-- There is a margin in force. -/
theorem Holds.margin_eq (hs : s.Holds epsilon w t) (y : K) :
    (s.margin (finite y)).2 = .ok (finite (marginAfter epsilon (t.map (Spread.taking · y)))) := by
  have hnonneg := (hs.measuring y).sum_nonneg
  cases t with
  | none =>
      have hspread : s.spread = none := hs.spread_eq
      simp only [margin, hspread, hs.epsilon_eq]
      rfl
  | some t =>
      have hspread : s.spread = some (t.map finite) := hs.spread_eq
      simp only [margin, hspread, Spread.observe_exact, ok_bind,
        Spread.deviation_eq (hnonneg _ rfl), hs.epsilon_eq, mul_finite]
      rfl

variable [Key ι]

/-! ## The three endings -/

/-- An example whose ids are keys is scored, and its loss is known. -/
theorem Holds.judged (hs : s.Holds epsilon w t) (haccepts : s.phase ≠ .finalized) {x : Features ι K}
    (hx : ∀ f ∈ x, Key.check f.id = .ok ()) (y : K) :
    Judged s (x.map (Feature.map finite)) (finite y)
      ⟨finite (w.dot x), finite (squaredNorm x)⟩
      (finite (marginAfter epsilon (t.map (Spread.taking · y))))
      (finite (excess (w.dot x) y (marginAfter epsilon (t.map (Spread.taking · y))))) where
  accepts := haccepts
  scored := by rw [hs.weights_eq, w.scoreAndNorm_exact hx]
  margin_eq := hs.margin_eq y
  loss_eq := insensitiveLoss_exact _ _ _

section Endings

variable {x : Features ι K} {y : K}

/-- **The prediction is good enough.** -/
theorem Holds.step_noUpdate (hs : s.Holds epsilon w t) (haccepts : s.phase ≠ .finalized)
    (hx : ∀ f ∈ x, Key.check f.id = .ok ())
    (hloss : excess (w.dot x) y (marginAfter epsilon (t.map (Spread.taking · y))) = 0) :
    s.step (x.map (Feature.map finite)) (finite y) =
      ({ s.measuring (finite y) with counters := s.counters.noting .noUpdate },
        .ok ⟨.noUpdate, finite (w.dot x), finite (squaredNorm x), finite 0,
          finite (marginAfter epsilon (t.map (Spread.taking · y))), finite 0, finite 0⟩) := by
  have hjudged := hs.judged haccepts hx y
  rw [hloss] at hjudged
  exact (StepsTo.noUpdate hjudged (by simp)).step_eq

/-- **The weights move.** -/
theorem Holds.step_updated (hs : s.Holds epsilon w t) (haccepts : s.phase ≠ .finalized)
    (hx : ∀ f ∈ x, Key.check f.id = .ok ()) {e τ : K}
    (he : marginAfter epsilon (t.map (Spread.taking · y)) = e)
    (hloss : 0 < excess (w.dot x) y e)
    (hstride : s.settings.variant.rule.stride (excess (w.dot x) y e) (squaredNorm x)
      s.aggressiveness = finite τ) :
    s.step (x.map (Feature.map finite)) (finite y) =
      ({ s.measuring (finite y) with
          weights := (w.moved (direction (w.dot x) y * τ) x).map finite
          counters := s.counters.noting .updated },
        .ok (fieldReport w x y e τ)) := by
  have hjudged := hs.judged haccepts hx y
  have hsize := stepSize_exact hs.aggressive (squaredNorm_nonneg x) (w.dot x) y
    (excess (w.dot x) y e)
  rw [he] at hjudged
  rw [hstride] at hsize
  have hmove : moveAlong s.weights (finite (direction (w.dot x) y * τ))
      (x.map (Feature.map finite)) =
        ((w.moved (direction (w.dot x) y * τ) x).map finite, .ok ()) := by
    rw [hs.weights_eq, moveAlong_exact w _ hx]
  exact (StepsTo.updated ⟨hjudged, by simpa using hloss, hsize⟩ rfl hmove).step_eq

/-- **Nothing moves**, because the stride is infinite. -/
theorem Holds.step_skipped (hs : s.Holds epsilon w t) (haccepts : s.phase ≠ .finalized)
    (hx : ∀ f ∈ x, Key.check f.id = .ok ()) {e : K}
    (he : marginAfter epsilon (t.map (Spread.taking · y)) = e)
    (hloss : 0 < excess (w.dot x) y e)
    (hstride : s.settings.variant.rule.stride (excess (w.dot x) y e) (squaredNorm x)
      s.aggressiveness = infinite false) :
    s.step (x.map (Feature.map finite)) (finite y) =
      ({ s.measuring (finite y) with counters := s.counters.noting .skipped },
        .ok ⟨.skipped, finite (w.dot x), finite (squaredNorm x),
          finite (excess (w.dot x) y e), finite e, infinite false,
          infinite (decide (direction (w.dot x) y < 0))⟩) := by
  have hjudged := hs.judged haccepts hx y
  have hsize := stepSize_exact hs.aggressive (squaredNorm_nonneg x) (w.dot x) y
    (excess (w.dot x) y e)
  rw [he] at hjudged
  rw [hstride, direction_mul_infinite] at hsize
  exact (StepsTo.skipped ⟨hjudged, by simpa using hloss, hsize⟩ rfl).step_eq

/-- An example whose ids are keys comes to an outcome, with the score and the loss that the weights
give it. -/
theorem Holds.exists_outcome (hs : s.Holds epsilon w t) (haccepts : s.phase ≠ .finalized)
    (hx : ∀ f ∈ x, Key.check f.id = .ok ()) {e : K}
    (he : marginAfter epsilon (t.map (Spread.taking · y)) = e) :
    ∃ o : Outcome (Exact K), (s.step (x.map (Feature.map finite)) (finite y)).2 = .ok o ∧
      o.predicted = finite (w.dot x) ∧ o.squaredNorm = finite (squaredNorm x) ∧
      o.loss = finite (excess (w.dot x) y e) ∧ o.epsilon = finite e := by
  rcases (excess_nonneg (w.dot x) y e).eq_or_lt with hloss | hloss
  · subst he
    rw [hs.step_noUpdate haccepts hx hloss.symm]
    exact ⟨_, rfl, rfl, rfl, congrArg finite hloss, rfl⟩
  · rcases s.settings.variant.rule.stride_cases hloss.le (squaredNorm_nonneg x) hs.aggressive with
      hstride | ⟨τ, -, hstride⟩
    · rw [hs.step_skipped haccepts hx he hloss hstride]
      exact ⟨_, rfl, rfl, rfl, rfl, rfl⟩
    · rw [hs.step_updated haccepts hx he hloss hstride]
      exact ⟨_, rfl, rfl, rfl, rfl, rfl⟩

end Endings

/-! ## Ids that are no keys -/

omit [IsStrictOrderedRing K] in
/-- Where an id is no key, scoring fails, and how it fails does not depend on the weights. -/
theorem exists_fault_of_unkeyed {x : Features ι K}
    (h : ¬ ∀ f ∈ x, Key.check f.id = .ok ()) :
    ∃ fault, ∀ w : WeightMap ι K,
      (w.map finite).scoreAndNorm (x.map (Feature.map finite)) = .error fault := by
  suffices hfold : ∃ fault, ∀ (w : WeightMap ι K) (p n : K),
      (x.map (Feature.map finite)).foldlM (w.map finite).addFeature ⟨finite p, finite n⟩ =
        .error fault by
    obtain ⟨fault, hfault⟩ := hfold
    exact ⟨fault, fun w => hfault w 0 0⟩
  induction x with
  | nil => exact absurd (by simp) h
  | cons f fs ih =>
      cases hf : Key.check f.id with
      | error fault =>
          refine ⟨fault, fun w p n => ?_⟩
          have hget : (w.map finite).get f.id = .error fault := by
            rw [WeightMap.get, hf, error_bind]
          rw [List.map_cons, List.foldlM_cons, WeightMap.addFeature, WeightMap.addToScore]
          simp only [Feature.map, hget, error_bind]
      | ok checked =>
          have hfs : ¬ ∀ g ∈ fs, Key.check g.id = .ok () := fun hall =>
            h (List.forall_mem_cons.2 ⟨hf, hall⟩)
          obtain ⟨fault, hfault⟩ := ih hfs
          refine ⟨fault, fun w p n => ?_⟩
          rw [List.map_cons, List.foldlM_cons, w.addFeature_exact p n hf, ok_bind]
          exact hfault w _ _

omit [IsStrictOrderedRing K] in
theorem Holds.step_of_unkeyed (hs : s.Holds epsilon w t) (haccepts : s.phase ≠ .finalized)
    {x : Features ι K} {fault : Fault}
    (h : (w.map finite).scoreAndNorm (x.map (Feature.map finite)) = .error fault) (y : K) :
    s.step (x.map (Feature.map finite)) (finite y) =
      ({ s with phase := .idle }, .error (.fault fault)) := by
  rw [← hs.weights_eq] at h
  exact (StepsTo.unscored haccepts h).step_eq

/-! ## From one example to the next -/

/-- **A step leaves a session of numbers**, whatever it comes to, and takes no spread away. -/
theorem Holds.step (hs : s.Holds epsilon w t) (x : Features ι K) (y : K) :
    ∃ w' t', (s.step (x.map (Feature.map finite)) (finite y)).1.Holds epsilon w' t' ∧
      t'.isSome = t.isSome := by
  have hsome : (t.map (Spread.taking · y)).isSome = t.isSome := by cases t <;> rfl
  by_cases hphase : s.phase = .finalized
  · rw [step_of_finalized hphase]
    exact ⟨w, t, hs, rfl⟩
  by_cases hx : ∀ f ∈ x, Key.check f.id = .ok ()
  · rcases (excess_nonneg (w.dot x) y
      (marginAfter epsilon (t.map (Spread.taking · y)))).eq_or_lt with hloss | hloss
    · rw [hs.step_noUpdate hphase hx hloss.symm]
      exact ⟨w, _, { hs.measuring y with }, hsome⟩
    · rcases s.settings.variant.rule.stride_cases hloss.le (squaredNorm_nonneg x)
        hs.aggressive with hstride | ⟨τ, -, hstride⟩
      · rw [hs.step_skipped hphase hx rfl hloss hstride]
        exact ⟨w, _, { hs.measuring y with }, hsome⟩
      · rw [hs.step_updated hphase hx rfl hloss hstride]
        exact ⟨_, _, (hs.measuring y).withWeights _ _ _, hsome⟩
  · obtain ⟨fault, hfault⟩ := exists_fault_of_unkeyed hx
    rw [hs.step_of_unkeyed hphase (hfault w)]
    exact ⟨w, t, { hs with }, rfl⟩

/-- So does any call over numbers. -/
theorem Holds.call (hs : s.Holds epsilon w t) (c : Call ι K) :
    ∃ w' t', (s.call (c.map finite)).Holds epsilon w' t' ∧ t'.isSome = t.isSome := by
  cases c with
  | step x y => exact hs.step x y
  | predict | weights => exact ⟨w, t, hs, rfl⟩
  | finalize => exact ⟨w, t, { hs with }, rfl⟩
  | adjust id d =>
      cases hid : Key.check id with
      | error fault =>
          have hadd : s.weights.add id (finite d) = .error fault := by
            rw [WeightMap.add, WeightMap.get, hid, error_bind, error_bind]
          simp only [Call.map, Session.call, adjust, hadd]
          exact ⟨w, t, hs, rfl⟩
      | ok checked =>
          have hadd : s.weights.add id (finite d) =
              .ok ((w.insert id (w.weight id + d)).map finite) := by
            rw [hs.weights_eq, w.insert_exact hid]
          simp only [Call.map, Session.call, adjust, hadd]
          exact ⟨_, t, hs.withWeights _ _ _, rfl⟩

/-- **Any calls over numbers** leave a session of numbers. -/
theorem Holds.after (hs : s.Holds epsilon w t) (calls : List (Call ι K)) :
    ∃ w' t', (s.after (calls.map (Call.map finite))).Holds epsilon w' t' ∧
      t'.isSome = t.isSome := by
  induction calls generalizing s w t with
  | nil => exact ⟨w, t, hs, rfl⟩
  | cons c calls ih =>
      obtain ⟨w', t', hs', hsome'⟩ := hs.call c
      obtain ⟨w'', t'', hs'', hsome''⟩ := ih hs'
      exact ⟨w'', t'', hs'', hsome''.trans hsome'⟩

end Session
end PassiveAggressive

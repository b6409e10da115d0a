import PassiveAggressive.Proofs.Exact.Scaling

/-!
# The mirror image of a stream

Turn the sign of every target.  The session then learns the opposite: every weight and
every prediction has the opposite sign, every step has the same size in the opposite
direction, and losses, margins and counters do not notice (`feed_mirrored`).  The spread of
the opposite targets is the same about the opposite mean.

The learner is not written so that this is plain.  A step goes up where the target is above
the prediction and down where it is not, and where the two are equal the opposite of *not
above* is again *not above*.  So the mirror image of a step in that place would go the same
way and not the opposite one.  There is no such step if the margin is not negative: a loss
greater than zero is then a distance greater than zero (`direction_neg`).  This has to hold
of the margin in force, which an adaptive session scales by a root, and that is where a
root is asked not to be negative (`marginAfter_nonneg`).

`Session.mirrored` is the image of a session, and one step commutes with taking it
(`Holds.step_mirrored`).
-/

namespace PassiveAggressive

open Exact

/-! ## Images -/

section Images

variable {ι α : Type} [Neg α]

/-- The same example with the opposite target. -/
def Example.mirrored (e : Example ι α) : Example ι α := (e.1, -e.2)

/-- The same ids, in the same order, with the opposite weights. -/
def WeightMap.mirrored (m : WeightMap ι α) : WeightMap ι α := m.map fun a => -a

/-- The same spread about the opposite mean. -/
def Spread.mirrored (t : Spread α) : Spread α := { t with mean := -t.mean }

/-- The same outcome with the opposite prediction and a step in the opposite direction. -/
def Outcome.mirrored (o : Outcome α) : Outcome α :=
  { o with predicted := -o.predicted, coeff := -o.coeff }

/-- The same session with the opposite weights and the spread about the opposite mean. -/
def Session.mirrored (s : Session ι α) : Session ι α :=
  { s with weights := s.weights.mirrored, spread := s.spread.map Spread.mirrored }

end Images

variable {ι K : Type} [Field K]

instance : Neg (Exact K) := ⟨Exact.neg⟩

@[simp] theorem Exact.neg_finite (x : K) : -finite x = finite (-x) := rfl

@[simp] theorem Exact.neg_infinite (negative : Bool) :
    -(infinite negative : Exact K) = infinite !negative := rfl

theorem WeightMap.mirrored_map (w : WeightMap ι K) :
    (w.map finite).mirrored = w.mirrored.map finite := by
  simp [mirrored, WeightMap.map]

theorem Spread.mirrored_map (t : Option (Spread K)) :
    (t.map (Spread.map finite)).map Spread.mirrored =
      (t.map Spread.mirrored).map (Spread.map finite) := by
  cases t <;> rfl

/-! ## Images of weights and spreads -/

theorem WeightMap.mirrored_eq_scaled (w : WeightMap ι K) : w.mirrored = w.scaled (-1 : K) := by
  unfold mirrored scaled
  congr
  funext a
  rw [smul_eq_mul, neg_one_mul]

theorem Spread.mirrored_eq_scaled (t : Spread K) : t.mirrored = t.scaled (-1 : K) := by
  show (⟨t.count, -t.mean, t.sumSqDiff⟩ : Spread K) =
    ⟨t.count, -1 * t.mean, -1 * (-1 * t.sumSqDiff)⟩
  rw [neg_one_mul, neg_one_mul, neg_one_mul, neg_neg]

section Weights

variable [Key ι]

namespace WeightMap

theorem dot_mirrored (w : WeightMap ι K) (x : Features ι K) : w.mirrored.dot x = -w.dot x := by
  rw [mirrored_eq_scaled, dot_scaled, neg_one_mul]

theorem moved_mirrored (w : WeightMap ι K) (c : K) (x : Features ι K) :
    w.mirrored.moved (-c) x = (w.moved c x).mirrored := by
  rw [mirrored_eq_scaled, mirrored_eq_scaled, ← moved_scaled, neg_one_mul]

end WeightMap
end Weights

theorem Spread.taking_mirrored (t : Spread K) (y : K) :
    t.mirrored.taking (-y) = (t.taking y).mirrored := by
  rw [mirrored_eq_scaled, mirrored_eq_scaled, ← taking_scaled, neg_one_mul]

theorem Spread.taking_mirrored_map (t : Option (Spread K)) (y : K) :
    (t.map Spread.mirrored).map (Spread.taking · (-y)) =
      (t.map (Spread.taking · y)).map Spread.mirrored := by
  cases t with
  | none => rfl
  | some t => exact congrArg some (t.taking_mirrored y)

/-! ## Images of losses and directions -/

variable [LinearOrder K]

theorem excess_neg (p y e : K) : excess (-p) (-y) e = excess p y e := by
  unfold excess
  rw [neg_sub_neg, abs_sub_comm]

section Losses

variable [IsStrictOrderedRing K] {p y e : K}

/-- **The opposite direction**, unless the prediction is the target. -/
theorem direction_neg (h : p ≠ y) : direction (-p) (-y) = -direction p y := by
  unfold direction
  rw [neg_sub_neg]
  rcases lt_or_gt_of_ne h with hlt | hgt
  · rw [if_pos (sub_pos.2 hlt), if_neg (not_lt.2 (sub_nonpos.2 hlt.le))]
  · rw [if_neg (not_lt.2 (sub_nonpos.2 hgt.le)), if_pos (sub_pos.2 hgt), neg_neg]

/-- The opposite direction is down where the direction is up. -/
theorem decide_neg_direction (p y : K) :
    decide (-direction p y < 0) = !decide (direction p y < 0) := by
  rcases direction_eq_or p y with h | h
  · simp [h]
  · simp [h]

theorem ne_of_excess_pos (he : 0 ≤ e) (h : 0 < excess p y e) : p ≠ y := by
  rintro rfl
  unfold excess at h
  rw [sub_self, abs_zero, zero_sub] at h
  exact absurd h (not_lt.2 (max_le (neg_nonpos.2 he) le_rfl))

end Losses

variable [SquareRoot K]

omit [LinearOrder K] in
/-- The margin depends on the deviation only. -/
theorem marginAfter_mirrored (epsilon : K) (t : Option (Spread K)) :
    marginAfter epsilon (t.map Spread.mirrored) = marginAfter epsilon t := by
  cases t <;> rfl

variable [IsStrictOrderedRing K]

omit [IsStrictOrderedRing K] in
theorem Spread.mirrored_start : (Spread.start : Spread (Exact K)).mirrored = .start := by
  have hzero : (finite (-0) : Exact K) = finite 0 := by rw [neg_zero]
  show (⟨0, finite (-0), finite 0⟩ : Spread (Exact K)) = _
  rw [hzero]
  rfl

namespace Session

variable {s : Session ι (Exact K)} {epsilon : K} {w : WeightMap ι K} {t : Option (Spread K)}

/-! ## One step -/

omit [IsStrictOrderedRing K] [SquareRoot K] in
theorem Holds.mirrored (hs : s.Holds epsilon w t) :
    s.mirrored.Holds epsilon w.mirrored (t.map Spread.mirrored) := by
  refine ⟨hs.epsilon_eq, ?_, ?_, hs.aggressive, ?_⟩
  · show s.weights.mirrored = _
    rw [hs.weights_eq, WeightMap.mirrored_map]
  · show s.spread.map Spread.mirrored = _
    rw [hs.spread_eq, Spread.mirrored_map]
  · intro t' ht'
    obtain ⟨t₀, ht₀, rfl⟩ := Option.map_eq_some_iff.1 ht'
    exact hs.sum_nonneg t₀ ht₀

theorem Holds.measuring_mirrored (hs : s.Holds epsilon w t) (y : K) :
    s.mirrored.measuring (finite (-y)) = (s.measuring (finite y)).mirrored := by
  have hspread : (s.mirrored.measuring (finite (-y))).spread =
      (s.measuring (finite y)).mirrored.spread := by
    rw [(hs.mirrored.measuring (-y)).spread_eq, (hs.measuring y).mirrored.spread_eq,
      Spread.taking_mirrored_map]
  show ({ s.mirrored with spread := (s.mirrored.measuring (finite (-y))).spread, phase := .idle } :
    Session ι (Exact K)) = _
  rw [hspread]
  rfl

variable [Key ι]

section OneStep

variable [LawfulSquareRoot K] {x : Features ι K} {y : K}

omit [Key ι] in
theorem Holds.marginAfter_image (hs : s.Holds epsilon w t) (hepsilon : 0 ≤ epsilon) (y : K) :
    0 ≤ marginAfter epsilon (t.map (Spread.taking · y)) ∧
      marginAfter epsilon ((t.map Spread.mirrored).map (Spread.taking · (-y))) =
        marginAfter epsilon (t.map (Spread.taking · y)) := by
  constructor
  · exact marginAfter_nonneg hepsilon (hs.measuring y).sum_nonneg
  · rw [Spread.taking_mirrored_map, marginAfter_mirrored]

/-- Where nothing has to be done, nothing has to be done with the image. -/
theorem Holds.step_mirrored_of_eq_zero (hs : s.Holds epsilon w t) (hepsilon : 0 ≤ epsilon)
    (haccepts : s.phase ≠ .finalized) (hx : ∀ f ∈ x, Key.check f.id = .ok ())
    (hloss : excess (w.dot x) y (marginAfter epsilon (t.map (Spread.taking · y))) = 0) :
    s.mirrored.step (x.map (Feature.map finite)) (finite (-y)) =
      ((s.step (x.map (Feature.map finite)) (finite y)).1.mirrored,
        (s.step (x.map (Feature.map finite)) (finite y)).2.map Outcome.mirrored) := by
  obtain ⟨-, hmargin⟩ := hs.marginAfter_image hepsilon y
  have haccepts' : s.mirrored.phase ≠ .finalized := haccepts
  have hloss' : excess (w.mirrored.dot x) (-y)
      (marginAfter epsilon ((t.map Spread.mirrored).map (Spread.taking · (-y)))) = 0 := by
    rw [hmargin, w.dot_mirrored, excess_neg, hloss]
  rw [hs.step_noUpdate haccepts hx hloss, hs.mirrored.step_noUpdate haccepts' hx hloss', hmargin,
    hs.measuring_mirrored, w.dot_mirrored]
  refine Prod.ext rfl ?_
  simp [Except.map, Outcome.mirrored]

/-- Where there is a loss, the image goes the opposite way. -/
theorem Holds.step_mirrored_of_pos (hs : s.Holds epsilon w t) (hepsilon : 0 ≤ epsilon)
    (haccepts : s.phase ≠ .finalized) (hx : ∀ f ∈ x, Key.check f.id = .ok ())
    (hloss : 0 < excess (w.dot x) y (marginAfter epsilon (t.map (Spread.taking · y)))) :
    s.mirrored.step (x.map (Feature.map finite)) (finite (-y)) =
      ((s.step (x.map (Feature.map finite)) (finite y)).1.mirrored,
        (s.step (x.map (Feature.map finite)) (finite y)).2.map Outcome.mirrored) := by
  obtain ⟨hnonneg, hmargin⟩ := hs.marginAfter_image hepsilon y
  generalize he : marginAfter epsilon (t.map (Spread.taking · y)) = e at hloss hnonneg hmargin
  have haccepts' : s.mirrored.phase ≠ .finalized := haccepts
  have hexcess : excess (w.mirrored.dot x) (-y) e = excess (w.dot x) y e := by
    rw [w.dot_mirrored, excess_neg]
  have hloss' : 0 < excess (w.mirrored.dot x) (-y) e := by
    rw [hexcess]
    exact hloss
  -- a distance greater than zero has a side, and the image is on the other one
  have hdirection : direction (w.mirrored.dot x) (-y) = -direction (w.dot x) y := by
    rw [w.dot_mirrored, direction_neg (ne_of_excess_pos hnonneg hloss)]
  have hstride' : s.mirrored.settings.variant.rule.stride (excess (w.mirrored.dot x) (-y) e)
      (squaredNorm x) s.mirrored.aggressiveness =
        s.settings.variant.rule.stride (excess (w.dot x) y e) (squaredNorm x)
          s.aggressiveness := by
    rw [hexcess]
    rfl
  rcases s.settings.variant.rule.stride_cases hloss.le (squaredNorm_nonneg x) hs.aggressive with
    hstride | ⟨τ, -, hstride⟩
  · rw [hs.step_skipped haccepts hx he hloss hstride,
      hs.mirrored.step_skipped haccepts' hx hmargin hloss' (hstride'.trans hstride),
      hs.measuring_mirrored, hexcess, hdirection, w.dot_mirrored]
    refine Prod.ext rfl ?_
    simp only [Except.map, Outcome.mirrored, neg_finite, neg_infinite, decide_neg_direction]
  · rw [hs.step_updated haccepts hx he hloss hstride,
      hs.mirrored.step_updated haccepts' hx hmargin hloss' (hstride'.trans hstride),
      hs.measuring_mirrored, fieldReport, fieldReport, hexcess, hdirection, neg_mul,
      w.moved_mirrored, w.dot_mirrored]
    refine Prod.ext ?_ ?_
    · rw [← WeightMap.mirrored_map]
      rfl
    · simp [Except.map, Outcome.mirrored]

/-- **A step of the image** is the image of the step. -/
theorem Holds.step_mirrored (hs : s.Holds epsilon w t) (hepsilon : 0 ≤ epsilon)
    (x : Features ι K) (y : K) :
    s.mirrored.step (x.map (Feature.map finite)) (finite (-y)) =
      ((s.step (x.map (Feature.map finite)) (finite y)).1.mirrored,
        (s.step (x.map (Feature.map finite)) (finite y)).2.map Outcome.mirrored) := by
  by_cases hphase : s.phase = .finalized
  · have hphase' : s.mirrored.phase = .finalized := hphase
    rw [step_of_finalized hphase, step_of_finalized hphase']
    rfl
  by_cases hx : ∀ f ∈ x, Key.check f.id = .ok ()
  · rcases (excess_nonneg (w.dot x) y
      (marginAfter epsilon (t.map (Spread.taking · y)))).eq_or_lt with hloss | hloss
    · exact hs.step_mirrored_of_eq_zero hepsilon hphase hx hloss.symm
    · exact hs.step_mirrored_of_pos hepsilon hphase hx hloss
  · obtain ⟨fault, hfault⟩ := exists_fault_of_unkeyed hx
    have hphase' : s.mirrored.phase ≠ .finalized := hphase
    rw [hs.step_of_unkeyed hphase (hfault w),
      hs.mirrored.step_of_unkeyed hphase' (hfault w.mirrored)]
    rfl

end OneStep

/-! ## A whole stream -/

/-- From any session of numbers, the image of a stream comes to the image of what the stream comes
to. -/
theorem Holds.feed_image [LawfulSquareRoot K] (hs : s.Holds epsilon w t)
    (hepsilon : 0 ≤ epsilon) (stream : List (Example ι K)) :
    s.mirrored.feed ((stream.map (Example.map finite)).map Example.mirrored) =
      ((s.feed (stream.map (Example.map finite))).1.mirrored,
        (s.feed (stream.map (Example.map finite))).2.map (Except.map Outcome.mirrored)) := by
  induction stream generalizing s w t with
  | nil => rfl
  | cons e rest ih =>
      obtain ⟨x, y⟩ := e
      obtain ⟨w', t', hs', -⟩ := hs.step x y
      have himage : Example.mirrored (x.map (Feature.map finite), finite y) =
          (x.map (Feature.map finite), finite (-y)) := rfl
      rw [Example.map_cons, List.map_cons, himage, feed_cons, feed_cons, hs.step_mirrored hepsilon, ih hs',
        List.map_cons]

/-- **The mirror image of a stream.**  Over exact numbers, for every variant and aggressiveness and a
margin that is not negative, feed a stream to a new session, and feed the same examples with the
opposite targets to another one with the same settings.  At every example they come to the same
fault or to outcomes that differ in the signs of the prediction and of the step only; and in the end
the second session has the same ids in the same order with the opposite weights, the same counters,
and the same spread about the opposite mean. -/
theorem feed_mirrored [LawfulSquareRoot K] {settings : Settings (Exact K)}
    (he : settings.epsilon = finite epsilon) (hepsilon : 0 ≤ epsilon)
    (hs : create settings = .ok s) (stream : List (Example ι K)) :
    s.feed ((stream.map (Example.map finite)).map Example.mirrored) =
      ((s.feed (stream.map (Example.map finite))).1.mirrored,
        (s.feed (stream.map (Example.map finite))).2.map (Except.map Outcome.mirrored)) := by
  have hnew := holds_of_create he hs
  have hself : s.mirrored = s := by
    rw [eq_of_create hs]
    cases settings.variant.adaptive with
    | false => rfl
    | true =>
        show (⟨settings, s.aggressiveness, .empty, some (Spread.start : Spread (Exact K)).mirrored,
          .idle, .none⟩ : Session ι (Exact K)) = _
        rw [Spread.mirrored_start]
        rfl
  rw [← hnew.feed_image hepsilon, hself]

/-- An adaptive session that makes no step at a target it has predicted, is fed an example without
features, and meets an id that is no key. -/
theorem feed_mirrored_of_pa1a :
    ∃ (s : Session Value (Exact ℝ)) (stream : List (Example Value ℝ)),
      create ⟨.pa1a, none, finite (1 / 2)⟩ = .ok s ∧ (0 : ℝ) ≤ 1 / 2 ∧
      stream = [([⟨.int 1, 2⟩], 0), ([⟨.int 1, 2⟩, ⟨.bool true, 1⟩], 4), ([], -1),
        ([⟨.list [], 1⟩], 2), ([⟨.text "a", 3⟩], -3)] ∧
      s.feed ((stream.map (Example.map finite)).map Example.mirrored) =
        ((s.feed (stream.map (Example.map finite))).1.mirrored,
          (s.feed (stream.map (Example.map finite))).2.map (Except.map Outcome.mirrored)) := by
  obtain ⟨s, hs⟩ : ∃ s : Session Value (Exact ℝ), create ⟨.pa1a, none, finite (1 / 2)⟩ = .ok s :=
    exists_create (.inl rfl)
  exact ⟨s, _, hs, by norm_num, rfl, feed_mirrored rfl (by norm_num) hs _⟩

end Session
end PassiveAggressive

import PassiveAggressive.Proofs.Exact.Step

/-!
# Another unit for the targets

Multiply every target by the same positive number, as if it were given in another unit.  An
adaptive session with a softened step, or without a bound on its step, learns the same in
the new unit: predictions, losses, margins, steps and weights are multiplied by that number,
and statuses and counters do not notice (`feed_scaled`).  This is what the adaptive variants
are there for.

Everything that a step computes has a degree in the unit.  Targets, weights, scores, margins
and steps have degree one, squared norms and softenings degree zero, and the sum of the
squared differences degree two.  Its root has degree one again, because a root is asked not
to be negative, and only one such number has a given square (`root_mul_mul_self`).

Two things have a degree of their own, and this is why the other variants are not meant: a
margin that does not follow the deviation, and a bound on the step, are numbers that were
set and do not know about the unit.  A softened step is bounded as well, but by a number
that is added to the squared norm.
-/

namespace PassiveAggressive

open Exact

/-! ## Images -/

section Images

variable {ι K α : Type} [SMul K α]

/-- The same example with its target in another unit. -/
def Example.scaled (k : K) (e : Example ι α) : Example ι α := (e.1, k • e.2)

/-- The same ids, in the same order, with their weights in another unit. -/
def WeightMap.scaled (k : K) (m : WeightMap ι α) : WeightMap ι α := m.map fun a => k • a

/-- The spread in another unit. -/
def Spread.scaled (k : K) (t : Spread α) : Spread α :=
  ⟨t.count, k • t.mean, k • k • t.sumSqDiff⟩

/-- The same outcome in another unit, of which the squared norm knows nothing. -/
def Outcome.scaled (k : K) (o : Outcome α) : Outcome α :=
  { o with
    predicted := k • o.predicted
    loss := k • o.loss
    epsilon := k • o.epsilon
    eta := k • o.eta
    coeff := k • o.coeff }

/-- The same session with its weights and its spread in another unit. -/
def Session.scaled (k : K) (s : Session ι α) : Session ι α :=
  { s with weights := s.weights.scaled k, spread := s.spread.map (Spread.scaled k) }

end Images

variable {ι K : Type} [Field K]

/-! ## Multiples of weights -/

section Weights

variable [Key ι]

namespace WeightMap

theorem weight_scaled (k : K) (w : WeightMap ι K) (id : ι) :
    (w.scaled k).weight id = k * w.weight id := by
  unfold weight scaled
  rw [find?_map]
  cases w.find? id with
  | none => simp
  | some a => rfl

theorem dot_scaled (k : K) (w : WeightMap ι K) (x : Features ι K) :
    (w.scaled k).dot x = k * w.dot x := by
  unfold dot
  induction x with
  | nil => simp
  | cons f fs ih =>
      rw [List.map_cons, List.sum_cons, ih, weight_scaled, List.map_cons, List.sum_cons]
      ring

/-- A multiple of the weights moves by the same multiple. -/
theorem moved_scaled (k : K) (w : WeightMap ι K) (c : K) (x : Features ι K) :
    (w.scaled k).moved (k * c) x = (w.moved c x).scaled k := by
  induction x generalizing w with
  | nil => rfl
  | cons f fs ih =>
      have hvalue : (w.scaled k).weight f.id + k * c * f.value =
          k • (w.weight f.id + c * f.value) := by
        rw [weight_scaled, smul_eq_mul]
        ring
      have hfirst : (w.scaled k).insert f.id ((w.scaled k).weight f.id + k * c * f.value) =
          (w.insert f.id (w.weight f.id + c * f.value)).scaled k := by
        rw [hvalue]
        exact insert_map (fun a => k • a) w f.id _
      show ((w.scaled k).insert f.id ((w.scaled k).weight f.id + k * c * f.value)).moved
        (k * c) fs = _
      rw [hfirst, ih]
      rfl

end WeightMap
end Weights

/-! ## Multiples of spreads -/

namespace Spread

/-- A multiple of a value is taken into the spread of the multiples. -/
theorem taking_scaled (k : K) (t : Spread K) (y : K) :
    (t.scaled k).taking (k * y) = (t.taking y).scaled k := by
  have hmean : ((t.scaled k).taking (k * y)).mean = k * (t.taking y).mean := by
    show k * t.mean + (k * y - k * t.mean) / ((t.count + 1 : ℕ) : K) =
      k * (t.mean + (y - t.mean) / ((t.count + 1 : ℕ) : K))
    ring
  have hsum : ((t.scaled k).taking (k * y)).sumSqDiff = k * (k * (t.taking y).sumSqDiff) := by
    show k * (k * t.sumSqDiff) +
        (k * y - k * t.mean) * (k * y - ((t.scaled k).taking (k * y)).mean) =
      k * (k * (t.sumSqDiff + (y - t.mean) * (y - (t.taking y).mean)))
    rw [hmean]
    ring
  show (⟨t.count + 1, _, _⟩ : Spread K) = ⟨t.count + 1, _, _⟩
  rw [Spread.mk.injEq]
  exact ⟨rfl, hmean, hsum⟩

theorem sampleVariance_scaled (k : K) (t : Spread K) :
    (t.scaled k).sampleVariance = k * (k * t.sampleVariance) := by
  show (if t.count < 2 then 0 else k * (k * t.sumSqDiff) / ((t.count : K) - 1)) = _
  unfold sampleVariance
  split
  · simp
  · ring

end Spread

variable [LinearOrder K]

/-! ## Multiples of exact numbers -/

/-- The multiple of a number, infinite if the number is. -/
instance : SMul K (Exact K) := ⟨fun k x => (finite k).mul x⟩

@[simp] theorem Exact.smul_finite (k x : K) : k • finite x = finite (k * x) := rfl

theorem WeightMap.scaled_map (k : K) (w : WeightMap ι K) :
    (w.map finite).scaled k = (w.scaled k).map finite := by
  simp [scaled, WeightMap.map]

theorem Spread.scaled_start [SquareRoot K] (k : K) :
    (Spread.start : Spread (Exact K)).scaled k = .start := by
  show (⟨0, finite (k * 0), finite (k * (k * 0))⟩ : Spread (Exact K)) = _
  rw [mul_zero, mul_zero]
  rfl

/-! ## Multiples of losses, directions and steps -/

variable [IsStrictOrderedRing K] {k : K}

omit [IsStrictOrderedRing K] in
theorem Exact.smul_infinite (hk : 0 < k) (negative : Bool) :
    k • (infinite negative : Exact K) = infinite negative := by
  show (if k = 0 then nan else infinite (negative != decide (k < 0))) = _
  rw [if_neg hk.ne', decide_eq_false (not_lt.2 hk.le), Bool.bne_false]

theorem excess_mul (hk : 0 ≤ k) (p y e : K) :
    excess (k * p) (k * y) (k * e) = k * excess p y e := by
  unfold excess
  rw [mul_max_of_nonneg _ _ hk, ← mul_sub, abs_mul, abs_of_nonneg hk, ← mul_sub, mul_zero]

theorem direction_mul (hk : 0 < k) (p y : K) : direction (k * p) (k * y) = direction p y := by
  unfold direction
  rw [← mul_sub]
  by_cases h : 0 < y - p
  · rw [if_pos h, if_pos (mul_pos hk h)]
  · rw [if_neg h, if_neg fun hpos => h (pos_of_mul_pos_right hpos hk.le)]

/-- A step whose bound does not know about the unit has degree zero and not one, so there must be
none: the rule softens its steps, or the aggressiveness is infinite. -/
def StepRule.Unbounded (rule : StepRule) (c : Exact K) : Prop :=
  rule = .softened ∨ c = infinite false

omit [IsStrictOrderedRing K] in
/-- **A stride without a bound has degree one** in the loss. -/
theorem StepRule.Unbounded.stride_mul {rule : StepRule} {c : Exact K} (h : rule.Unbounded c)
    (hk : 0 < k) (l n : K) : rule.stride (k * l) n c = k • rule.stride l n c := by
  have hquotient : (if n = 0 then infinite false else finite (k * l / n)) =
      k • (if n = 0 then infinite false else finite (l / n) : Exact K) := by
    by_cases hn : n = 0
    · rw [if_pos hn, if_pos hn, smul_infinite hk]
    · rw [if_neg hn, if_neg hn, smul_finite, mul_div_assoc]
  rcases h with rfl | rfl
  · cases c with
    | finite a =>
        show finite (k * l / (n + softening a)) = k • finite (l / (n + softening a))
        rw [smul_finite, mul_div_assoc]
    | infinite | nan => exact hquotient
  · exact hquotient

variable [SquareRoot K] [LawfulSquareRoot K]

/-- **The root has degree one** where the number under it has degree two. -/
theorem root_mul_mul_self (hk : 0 ≤ k) {v : K} (hv : 0 ≤ v) :
    SquareRoot.root (k * (k * v)) = k * SquareRoot.root v := by
  have hkv : 0 ≤ k * (k * v) := mul_nonneg hk (mul_nonneg hk hv)
  have hsq : SquareRoot.root (k * (k * v)) ^ 2 = (k * SquareRoot.root v) ^ 2 := by
    rw [LawfulSquareRoot.root_sq hkv, mul_pow, LawfulSquareRoot.root_sq hv]
    ring
  have hleft : 0 ≤ SquareRoot.root (k * (k * v)) := LawfulSquareRoot.root_nonneg hkv
  have hright : 0 ≤ k * SquareRoot.root v := mul_nonneg hk (LawfulSquareRoot.root_nonneg hv)
  exact (sq_eq_sq₀ hleft hright).1 hsq

theorem marginAfter_scaled (hk : 0 ≤ k) (epsilon : K) {t : Spread K} (ht : 0 ≤ t.sumSqDiff) :
    marginAfter epsilon (some (t.scaled k)) = k * marginAfter epsilon (some t) := by
  show epsilon * SquareRoot.root (t.scaled k).sampleVariance =
    k * (epsilon * SquareRoot.root t.sampleVariance)
  rw [Spread.sampleVariance_scaled, root_mul_mul_self hk (Spread.sampleVariance_nonneg ht)]
  ring

namespace Session

variable {s : Session ι (Exact K)} {epsilon : K} {w : WeightMap ι K} {t : Spread K}

/-! ## One step -/

omit [SquareRoot K] [LawfulSquareRoot K] in
theorem Holds.scaled (hs : s.Holds epsilon w (some t)) (hk : 0 ≤ k) :
    (s.scaled k).Holds epsilon (w.scaled k) (some (t.scaled k)) := by
  refine ⟨hs.epsilon_eq, ?_, ?_, hs.aggressive, ?_⟩
  · show s.weights.scaled k = _
    rw [hs.weights_eq, WeightMap.scaled_map]
  · show s.spread.map (Spread.scaled k) = _
    rw [hs.spread_eq]
    rfl
  · rintro t' ⟨⟩
    exact mul_nonneg hk (mul_nonneg hk (hs.sum_nonneg t rfl))

omit [LawfulSquareRoot K] in
theorem Holds.measuring_scaled (hs : s.Holds epsilon w (some t)) (hk : 0 ≤ k) (y : K) :
    (s.scaled k).measuring (finite (k * y)) = (s.measuring (finite y)).scaled k := by
  have hspread : ((s.scaled k).measuring (finite (k * y))).spread =
      ((s.measuring (finite y)).scaled k).spread := by
    have htaking := congrArg (fun t : Spread K => some (t.map finite)) (t.taking_scaled k y)
    exact (((hs.scaled hk).measuring (k * y)).spread_eq.trans htaking).trans
      ((hs.measuring y).scaled hk).spread_eq.symm
  show ({ s.scaled k with
      spread := ((s.scaled k).measuring (finite (k * y))).spread
      phase := .idle } : Session ι (Exact K)) = _
  rw [hspread]
  rfl

variable [Key ι]

section OneStep

variable {x : Features ι K} {y : K}

omit [Key ι] in
theorem Holds.marginAfter_scaled (hs : s.Holds epsilon w (some t)) (hk : 0 ≤ k) (y : K) :
    marginAfter epsilon ((some (t.scaled k)).map (Spread.taking · (k * y))) =
      k * marginAfter epsilon ((some t).map (Spread.taking · y)) := by
  have hnonneg : 0 ≤ (t.taking y).sumSqDiff := (hs.measuring y).sum_nonneg _ rfl
  show marginAfter epsilon (some ((t.scaled k).taking (k * y))) = _
  rw [t.taking_scaled]
  exact PassiveAggressive.marginAfter_scaled hk epsilon hnonneg

/-- Where nothing has to be done, nothing has to be done with the image. -/
theorem Holds.step_scaled_of_eq_zero (hs : s.Holds epsilon w (some t)) (hk : 0 < k)
    (haccepts : s.phase ≠ .finalized) (hx : ∀ f ∈ x, Key.check f.id = .ok ())
    (hloss : excess (w.dot x) y (marginAfter epsilon ((some t).map (Spread.taking · y))) = 0) :
    (s.scaled k).step (x.map (Feature.map finite)) (finite (k * y)) =
      ((s.step (x.map (Feature.map finite)) (finite y)).1.scaled k,
        (s.step (x.map (Feature.map finite)) (finite y)).2.map (Outcome.scaled k)) := by
  have hmargin := hs.marginAfter_scaled hk.le y
  have haccepts' : (s.scaled k).phase ≠ .finalized := haccepts
  have hloss' : excess ((w.scaled k).dot x) (k * y)
      (marginAfter epsilon ((some (t.scaled k)).map (Spread.taking · (k * y)))) = 0 := by
    rw [hmargin, w.dot_scaled, excess_mul hk.le, hloss, mul_zero]
  rw [hs.step_noUpdate haccepts hx hloss, (hs.scaled hk.le).step_noUpdate haccepts' hx hloss',
    hmargin, hs.measuring_scaled hk.le, w.dot_scaled]
  refine Prod.ext rfl ?_
  simp [Except.map, Outcome.scaled]

/-- Where there is a loss, the image goes the same way by a multiple of the step. -/
theorem Holds.step_scaled_of_pos (hs : s.Holds epsilon w (some t)) (hk : 0 < k)
    (hunbounded : s.settings.variant.rule.Unbounded s.aggressiveness)
    (haccepts : s.phase ≠ .finalized) (hx : ∀ f ∈ x, Key.check f.id = .ok ())
    (hloss : 0 < excess (w.dot x) y (marginAfter epsilon ((some t).map (Spread.taking · y)))) :
    (s.scaled k).step (x.map (Feature.map finite)) (finite (k * y)) =
      ((s.step (x.map (Feature.map finite)) (finite y)).1.scaled k,
        (s.step (x.map (Feature.map finite)) (finite y)).2.map (Outcome.scaled k)) := by
  have hmargin := hs.marginAfter_scaled hk.le y
  generalize he : marginAfter epsilon ((some t).map (Spread.taking · y)) = e at hloss hmargin
  have haccepts' : (s.scaled k).phase ≠ .finalized := haccepts
  have hexcess : excess ((w.scaled k).dot x) (k * y) (k * e) = k * excess (w.dot x) y e := by
    rw [w.dot_scaled, excess_mul hk.le]
  have hloss' : 0 < excess ((w.scaled k).dot x) (k * y) (k * e) := by
    rw [hexcess]
    exact mul_pos hk hloss
  have hdirection : direction ((w.scaled k).dot x) (k * y) = direction (w.dot x) y := by
    rw [w.dot_scaled, direction_mul hk]
  have hstride' : (s.scaled k).settings.variant.rule.stride
      (excess ((w.scaled k).dot x) (k * y) (k * e)) (squaredNorm x) (s.scaled k).aggressiveness =
        k • s.settings.variant.rule.stride (excess (w.dot x) y e) (squaredNorm x)
          s.aggressiveness := by
    rw [hexcess]
    exact hunbounded.stride_mul hk _ _
  rcases s.settings.variant.rule.stride_cases hloss.le (squaredNorm_nonneg x) hs.aggressive with
    hstride | ⟨τ, -, hstride⟩
  · rw [hstride, smul_infinite hk] at hstride'
    rw [hs.step_skipped haccepts hx he hloss hstride,
      (hs.scaled hk.le).step_skipped haccepts' hx hmargin hloss' hstride',
      hs.measuring_scaled hk.le, hexcess, hdirection, w.dot_scaled]
    refine Prod.ext rfl ?_
    simp only [Except.map, Outcome.scaled, smul_finite, smul_infinite hk]
  · rw [hstride, smul_finite] at hstride'
    have hcoeff : direction (w.dot x) y * (k * τ) = k * (direction (w.dot x) y * τ) := by ring
    rw [hs.step_updated haccepts hx he hloss hstride,
      (hs.scaled hk.le).step_updated haccepts' hx hmargin hloss' hstride',
      hs.measuring_scaled hk.le, fieldReport, fieldReport, hexcess, hdirection, hcoeff,
      w.moved_scaled, w.dot_scaled]
    refine Prod.ext ?_ ?_
    · rw [← WeightMap.scaled_map]
      rfl
    · simp [Except.map, Outcome.scaled]

/-- **A step of the image** is the image of the step. -/
theorem Holds.step_scaled (hs : s.Holds epsilon w (some t)) (hk : 0 < k)
    (hunbounded : s.settings.variant.rule.Unbounded s.aggressiveness)
    (x : Features ι K) (y : K) :
    (s.scaled k).step (x.map (Feature.map finite)) (finite (k * y)) =
      ((s.step (x.map (Feature.map finite)) (finite y)).1.scaled k,
        (s.step (x.map (Feature.map finite)) (finite y)).2.map (Outcome.scaled k)) := by
  by_cases hphase : s.phase = .finalized
  · have hphase' : (s.scaled k).phase = .finalized := hphase
    rw [step_of_finalized hphase, step_of_finalized hphase']
    rfl
  by_cases hx : ∀ f ∈ x, Key.check f.id = .ok ()
  · rcases (excess_nonneg (w.dot x) y
      (marginAfter epsilon ((some t).map (Spread.taking · y)))).eq_or_lt with hloss | hloss
    · exact hs.step_scaled_of_eq_zero hk hphase hx hloss.symm
    · exact hs.step_scaled_of_pos hk hunbounded hphase hx hloss
  · obtain ⟨fault, hfault⟩ := exists_fault_of_unkeyed hx
    have hphase' : (s.scaled k).phase ≠ .finalized := hphase
    rw [hs.step_of_unkeyed hphase (hfault w),
      (hs.scaled hk.le).step_of_unkeyed hphase' (hfault (w.scaled k))]
    rfl

end OneStep

/-! ## A whole stream -/

/-- From any session of numbers with a spread, the image of a stream comes to the image of what the
stream comes to. -/
theorem Holds.feed_scaled_image (hs : s.Holds epsilon w (some t)) (hk : 0 < k)
    (hunbounded : s.settings.variant.rule.Unbounded s.aggressiveness)
    (stream : List (Example ι K)) :
    (s.scaled k).feed ((stream.map (Example.map finite)).map (Example.scaled k)) =
      ((s.feed (stream.map (Example.map finite))).1.scaled k,
        (s.feed (stream.map (Example.map finite))).2.map (Except.map (Outcome.scaled k))) := by
  induction stream generalizing s w t with
  | nil => rfl
  | cons e rest ih =>
      obtain ⟨x, y⟩ := e
      -- a step leaves the rule, the aggressiveness and that there is a spread
      obtain ⟨w', t', hs', hsome⟩ := hs.step x y
      obtain ⟨t₁, rfl⟩ := Option.isSome_iff_exists.1 hsome
      obtain ⟨hsettings, haggressive⟩ :=
        settings_step s (x.map (Feature.map finite)) (finite y)
      have hunbounded' := hunbounded
      rw [← hsettings, ← haggressive] at hunbounded'
      have himage : Example.scaled k (x.map (Feature.map finite), finite y) =
          (x.map (Feature.map finite), finite (k * y)) := rfl
      rw [Example.map_cons, List.map_cons, himage, feed_cons, feed_cons, hs.step_scaled hk hunbounded,
        ih hs' hunbounded', List.map_cons]

/-- **Another unit for the targets.**  Over exact numbers, for a margin of either sign, take an
adaptive session with a softened step, or with a capped one and an infinite aggressiveness.  Feed it
a stream, and feed another one with the same settings the same examples with every target multiplied
by one positive number.  At every example they come to the same fault, or to outcomes with the same
status where prediction, loss, margin and step are multiplied by that number; and in the end the
second session has the same ids in the same order with the multiples of the weights, the same
counters, and the spread of the multiples. -/
theorem feed_scaled {settings : Settings (Exact K)} (he : settings.epsilon = finite epsilon)
    (hs : create settings = .ok s)
    (hvariant : settings.variant = .pa2a ∨
      settings.variant = .pa1a ∧ s.aggressiveness = infinite false)
    (hk : 0 < k) (stream : List (Example ι K)) :
    s.feed ((stream.map (Example.map finite)).map (Example.scaled k)) =
      ((s.feed (stream.map (Example.map finite))).1.scaled k,
        (s.feed (stream.map (Example.map finite))).2.map (Except.map (Outcome.scaled k))) := by
  have hadaptive : settings.variant.adaptive = true := by
    rcases hvariant with h | ⟨h, -⟩
    · rw [h]
      rfl
    · rw [h]
      rfl
  have hnew := holds_of_create he hs
  rw [if_pos hadaptive] at hnew
  have hsettings : s.settings = settings := congrArg Session.settings (eq_of_create hs)
  have hunbounded : s.settings.variant.rule.Unbounded s.aggressiveness := by
    rw [hsettings]
    rcases hvariant with h | ⟨-, h⟩
    · rw [h]
      exact .inl rfl
    · exact .inr h
  have hself : s.scaled k = s := by
    rw [eq_of_create hs, if_pos hadaptive]
    show (⟨settings, s.aggressiveness, .empty, some ((Spread.start : Spread (Exact K)).scaled k),
      .idle, .none⟩ : Session ι (Exact K)) = _
    rw [Spread.scaled_start]
  rw [← hnew.feed_scaled_image hk hunbounded, hself]

/-- A margin below zero and a softened step, with the targets in halves: an id occurs in two
spellings, one example has no features, and another one has an id that is no key. -/
theorem feed_scaled_halves :
    ∃ (s : Session Value (Exact ℝ)) (stream : List (Example Value ℝ)),
      create ⟨.pa2a, some (finite 3), finite (-2)⟩ = .ok s ∧ (0 : ℝ) < 1 / 2 ∧
      stream = [([⟨.int 1, 2⟩], 0), ([⟨.int 1, 2⟩, ⟨.bool true, 1⟩], 4), ([], -1),
        ([⟨.list [], 1⟩], 2), ([⟨.text "a", 3⟩], -3)] ∧
      s.feed ((stream.map (Example.map finite)).map (Example.scaled (1 / 2 : ℝ))) =
        ((s.feed (stream.map (Example.map finite))).1.scaled (1 / 2 : ℝ),
          (s.feed (stream.map (Example.map finite))).2.map
            (Except.map (Outcome.scaled (1 / 2 : ℝ)))) := by
  obtain ⟨s, hs⟩ : ∃ s : Session Value (Exact ℝ),
      create ⟨.pa2a, some (finite 3), finite (-2)⟩ = .ok s :=
    exists_create (.inr ⟨3, by norm_num, rfl⟩)
  exact ⟨s, _, hs, by norm_num, rfl, feed_scaled rfl hs (.inl rfl) (by norm_num) _⟩

end Session
end PassiveAggressive

import PassiveAggressive.Proofs.Exact.DualForm
import PassiveAggressive.Proofs.Session.Bookkeeping

/-!
# One example again and again

Present the same example over and over.  Each time the prediction moves towards the target
by what the step takes off the loss (`StepRule.reduction`), so that the loss after any
number of presentations has a closed form (`StepRule.lossAfter`): a capped step takes off
the same amount until there is less left than that, a softened one divides the loss by the
same factor, and a step that nothing holds back takes off all of it at once.

Three things have to be known together for the next step, and they are one invariant
(`Approaches`): the loss is the one of the closed form, the target is on the same side
while there is a loss, and the prediction has not gone past it.  The second is what makes
the next step go the same way, and it is there because a step never takes off more than
the loss, which leaves the margin between the prediction and the target.

That a step moves the prediction by its size times the squared norm needs the ids of the
example to be different keys, since otherwise the same weight is moved twice
(`overlap_self`).
-/

namespace PassiveAggressive

open Exact

variable {ι K : Type} [Field K] [LinearOrder K]

/-! ## What steps take off the loss -/

/-- What a step takes off the loss of its own example: nothing if there is no finite step. -/
def StepRule.reduction (rule : StepRule) (loss norm : K) (c : Exact K) : K :=
  match rule.stride loss norm c with
  | finite τ => τ * norm
  | _ => 0

/-- The loss of an example after a number of presentations, given its loss before them.  Each takes
off the same amount under a cap, as long as there is that much left, and leaves the same share where
steps are softened.  Where nothing holds a step back the first takes off everything, unless the
example has no length. -/
def StepRule.lossAfter (rule : StepRule) (norm : K) (c : Exact K) (loss : K) (times : ℕ) : K :=
  match c with
  | finite a =>
    match rule with
    | capped => max 0 (loss - times * a * norm)
    | softened => loss * (softening a / (norm + softening a)) ^ times
  | _ => if norm = 0 ∨ times = 0 then loss else 0

variable [IsStrictOrderedRing K] {loss norm : K} {c : Exact K}

namespace StepRule

theorem reduction_capped (hloss : 0 ≤ loss) (hnorm : 0 ≤ norm) (a : K) :
    capped.reduction loss norm (finite a) = min (a * norm) loss := by
  show (if norm = 0 then a else min a (loss / norm)) * norm = _
  by_cases h : norm = 0
  · rw [if_pos h, h, mul_zero, min_eq_left hloss]
  · rw [if_neg h, min_mul_of_nonneg _ _ hnorm, div_mul_cancel₀ _ h]

theorem reduction_softened (hnorm : 0 ≤ norm) {a : K} (ha : 0 < a) :
    softened.reduction loss norm (finite a) =
      loss - loss * (softening a / (norm + softening a)) := by
  have hpos : 0 < norm + softening a := add_pos_of_nonneg_of_pos hnorm (softening_pos ha)
  show loss / (norm + softening a) * norm = _
  rw [eq_sub_iff_add_eq, ← mul_div_assoc, div_mul_eq_mul_div, ← add_div, ← mul_add,
    mul_div_cancel_right₀ _ hpos.ne']

omit [IsStrictOrderedRing K] in
theorem reduction_infinite (rule : StepRule) (negative : Bool) :
    rule.reduction loss norm (infinite negative) = if norm = 0 then 0 else loss := by
  unfold reduction
  rw [rule.stride_infinite]
  by_cases h : norm = 0
  · rw [if_pos h, if_pos h]
  · rw [if_neg h, if_neg h]
    exact div_mul_cancel₀ _ h

theorem share_mem (hnorm : 0 ≤ norm) {a : K} (ha : 0 < a) :
    0 ≤ softening a / (norm + softening a) ∧ softening a / (norm + softening a) ≤ 1 := by
  have hpos : 0 ≤ norm + softening a := add_nonneg hnorm (softening_pos ha).le
  constructor
  · exact div_nonneg (softening_pos ha).le hpos
  · exact div_le_one_of_le₀ (le_add_of_nonneg_left hnorm) hpos

/-- **A step takes nothing back**, and not more off the loss than there is. -/
theorem reduction_mem (rule : StepRule) (hloss : 0 ≤ loss) (hnorm : 0 ≤ norm) (hc : c.Positive) :
    0 ≤ rule.reduction loss norm c ∧ rule.reduction loss norm c ≤ loss := by
  rcases hc with rfl | ⟨a, ha, rfl⟩
  · rw [reduction_infinite]
    split
    · exact ⟨le_rfl, hloss⟩
    · exact ⟨hloss, le_rfl⟩
  · cases rule with
    | capped =>
        rw [reduction_capped hloss hnorm]
        exact ⟨le_min (mul_nonneg ha.le hnorm) hloss, min_le_right _ _⟩
    | softened =>
        obtain ⟨hshare, hshare'⟩ := share_mem hnorm ha
        rw [reduction_softened hnorm ha]
        exact ⟨sub_nonneg.2 (mul_le_of_le_one_right hloss hshare'),
          sub_le_self _ (mul_nonneg hloss hshare)⟩

theorem lossAfter_nonneg (rule : StepRule) (hloss : 0 ≤ loss) (hnorm : 0 ≤ norm)
    (hc : c.Positive) (k : ℕ) :
    0 ≤ rule.lossAfter norm c loss k := by
  rcases hc with rfl | ⟨a, ha, rfl⟩
  · show 0 ≤ if norm = 0 ∨ k = 0 then loss else 0
    split
    · exact hloss
    · exact le_rfl
  · cases rule with
    | capped => exact le_max_left _ _
    | softened => exact mul_nonneg hloss (pow_nonneg (share_mem hnorm ha).1 k)

/-- **The closed form** loses at every presentation what the step takes off. -/
theorem lossAfter_succ (rule : StepRule) (hloss : 0 ≤ loss) (hnorm : 0 ≤ norm)
    (hc : c.Positive) (k : ℕ) :
    rule.lossAfter norm c loss (k + 1) =
      rule.lossAfter norm c loss k - rule.reduction (rule.lossAfter norm c loss k) norm c := by
  have hleft := rule.lossAfter_nonneg hloss hnorm hc k
  rcases hc with rfl | ⟨a, ha, rfl⟩
  · rw [reduction_infinite]
    by_cases h : norm = 0
    · simp [lossAfter, h]
    · simp [lossAfter, h]
  · cases rule with
    | capped =>
        -- a difference that is cut off at zero, cut off again
        have hcut : ∀ b d : K, 0 ≤ d → max 0 (b - d) = max 0 b - min d (max 0 b) := by
          intro b d hd
          rcases le_total b 0 with hb | hb
          · rw [max_eq_left hb, max_eq_left (by linarith), min_eq_right hd, sub_zero]
          · rw [max_eq_right hb]
            rcases le_total b d with hbd | hbd
            · rw [max_eq_left (by linarith), min_eq_right hbd, sub_self]
            · rw [max_eq_right (by linarith), min_eq_left hbd]
        rw [reduction_capped hleft hnorm]
        show max 0 (loss - ((k + 1 : ℕ) : K) * a * norm) = max 0 (loss - k * a * norm) -
          min (a * norm) (max 0 (loss - k * a * norm))
        rw [← hcut _ _ (mul_nonneg ha.le hnorm), Nat.cast_succ]
        ring_nf
    | softened =>
        rw [reduction_softened hnorm ha, sub_sub_cancel]
        show loss * _ ^ (k + 1) = loss * _ ^ k * _
        rw [pow_succ, mul_assoc]

/-- A cap of one, and a squared norm of four. -/
example : (List.range 4).map (capped.lossAfter 4 (finite 1) (10 : ℚ)) = [10, 6, 2, 0] := by
  decide +kernel

omit [IsStrictOrderedRing K] in
theorem lossAfter_zero (rule : StepRule) (hloss : 0 ≤ loss) : rule.lossAfter norm c loss 0 = loss := by
  cases c with
  | finite a =>
    cases rule with
    | capped => simp [lossAfter, hloss]
    | softened => simp [lossAfter]
  | infinite negative => simp [lossAfter]
  | nan => simp [lossAfter]

end StepRule

/-! ## What steps do to a prediction -/

section Predictions

variable {p q y e d : K}

theorem sub_eq_direction_mul_abs (p y : K) : y - p = direction p y * |p - y| := by
  linear_combination direction p y * direction_mul_sub p y - (y - p) * direction_sq p y

theorem sub_eq_direction_mul (h : 0 < excess p y e) :
    y - p = direction p y * (e + excess p y e) := by
  have hdistance : |p - y| = e + excess p y e := by
    unfold excess at h ⊢
    rcases le_or_gt (|p - y| - e) 0 with hle | hgt
    · rw [max_eq_right hle] at h
      exact absurd h (lt_irrefl 0)
    · rw [max_eq_left hgt.le]
      ring
  rw [← hdistance]
  exact sub_eq_direction_mul_abs p y

theorem sign_sub (he : 0 ≤ e) (h : 0 < excess p y e) :
    SignType.sign (y - p) = SignType.sign (direction p y) := by
  rw [sub_eq_direction_mul h, sign_mul, sign_pos (add_pos_of_nonneg_of_pos he h), mul_one]

theorem direction_eq_of_sub_eq {m : K} (hm : 0 < m) (h : y - q = direction p y * m) :
    direction q y = direction p y := by
  rcases direction_eq_or p y with hp | hp
  · rw [hp, one_mul] at h
    rw [hp, direction, h, if_pos hm]
  · rw [hp, neg_one_mul] at h
    rw [hp, direction, h, if_neg (not_lt.2 (neg_nonpos.2 hm.le))]

/-- After a move towards the target it is away by the margin and what is left of the loss. -/
theorem sub_move (h : 0 < excess p y e) :
    y - (p + direction p y * d) = direction p y * (e + (excess p y e - d)) := by
  linear_combination sub_eq_direction_mul h

/-- **A move towards the target** takes its length off the loss. -/
theorem excess_move (he : 0 ≤ e) (hd : 0 ≤ d) (hle : d ≤ excess p y e) :
    excess (p + direction p y * d) y e = excess p y e - d := by
  rcases (excess_nonneg p y e).eq_or_lt with hzero | hpos
  · have hd0 : d = 0 := le_antisymm (hzero ▸ hle) hd
    rw [hd0, mul_zero, add_zero, sub_zero]
  · have hleft : 0 ≤ e + (excess p y e - d) := add_nonneg he (sub_nonneg.2 hle)
    rw [excess, abs_sub_comm, sub_move hpos, abs_mul, abs_direction, one_mul, abs_of_nonneg hleft,
      add_sub_cancel_left, max_eq_left (sub_nonneg.2 hle)]

/-- Such a move does not go past the target. -/
theorem direction_mul_sub_move_nonneg (he : 0 ≤ e) (hle : d ≤ excess p y e) :
    0 ≤ direction p y * (y - (p + direction p y * d)) := by
  have hdistance : excess p y e ≤ |p - y| :=
    max_le (sub_le_self _ he) (abs_nonneg _)
  have hsplit : direction p y * (y - (p + direction p y * d)) = |p - y| - d := by
    linear_combination direction_mul_sub p y - d * direction_sq p y
  rw [hsplit]
  exact sub_nonneg.2 (hle.trans hdistance)

end Predictions

/-- **The invariant of a repetition**: what has become of a prediction `p` of the target `y`, with
margin `e`, when the example has been presented a number of times. -/
structure Approaches (rule : StepRule) (norm : K) (c : Exact K) (y e p : K) (times : ℕ)
    (q : K) : Prop where
  loss_eq : excess q y e = rule.lossAfter norm c (excess p y e) times
  not_past : 0 ≤ direction p y * (y - q)
  same_side : 0 < excess q y e → direction q y = direction p y

namespace Approaches

variable {rule : StepRule} {y e p q : K} {k : ℕ}

theorem zero : Approaches rule norm c y e p 0 p := by
  refine ⟨?_, ?_, fun _ => rfl⟩
  · rw [rule.lossAfter_zero (excess_nonneg p y e)]
  · rw [direction_mul_sub]
    exact abs_nonneg _

/-- **One more presentation.** -/
theorem succ (he : 0 ≤ e) (hnorm : 0 ≤ norm) (hc : c.Positive)
    (h : Approaches rule norm c y e p k q) :
    Approaches rule norm c y e p (k + 1)
      (q + direction q y * rule.reduction (excess q y e) norm c) := by
  obtain ⟨hreduction, hreduction'⟩ :=
    rule.reduction_mem (excess_nonneg q y e) hnorm hc
  have hloss := excess_move he hreduction hreduction'
  rcases (excess_nonneg q y e).eq_or_lt with hzero | hpos
  · -- nothing is left, and nothing is taken off
    have hnone : rule.reduction (excess q y e) norm c = 0 :=
      le_antisymm (hreduction'.trans hzero.symm.le) hreduction
    rw [hnone, mul_zero, add_zero]
    refine ⟨?_, h.not_past, h.same_side⟩
    rw [rule.lossAfter_succ (excess_nonneg p y e) hnorm hc, ← h.loss_eq, hnone, sub_zero]
  · have hside := h.same_side hpos
    refine ⟨?_, ?_, fun hleft => ?_⟩
    · rw [hloss, rule.lossAfter_succ (excess_nonneg p y e) hnorm hc, ← h.loss_eq]
    · rw [← hside]
      exact direction_mul_sub_move_nonneg he hreduction'
    · rw [hloss] at hleft
      rw [← hside]
      exact direction_eq_of_sub_eq (add_pos_of_nonneg_of_pos he hleft) (sub_move hpos)

end Approaches

variable [Key ι] [LawfulKey ι] [SquareRoot K]

namespace Session

variable {s : Session ι (Exact K)} {epsilon : K} {w : WeightMap ι K} {x : Features ι K} {y : K}

/-! ## What steps do to a session -/

/-- One presentation moves the prediction by what it takes off the loss. -/
theorem Holds.step_toward (hs : s.Holds epsilon w none) (haccepts : s.phase ≠ .finalized)
    (hx : ∀ f ∈ x, Key.check f.id = .ok ()) (hdistinct : DistinctIds x)
    (hself : ∀ f ∈ x, Key.same f.id f.id = true) :
    ∃ w', (s.step (x.map (Feature.map finite)) (finite y)).1.Holds epsilon w' none ∧
      w'.dot x = w.dot x + direction (w.dot x) y *
        s.settings.variant.rule.reduction (excess (w.dot x) y epsilon) (squaredNorm x)
          s.aggressiveness := by
  rcases (excess_nonneg (w.dot x) y epsilon).eq_or_lt with hloss | hloss
  · obtain ⟨hreduction, hreduction'⟩ := s.settings.variant.rule.reduction_mem
      (excess_nonneg (w.dot x) y epsilon) (squaredNorm_nonneg x) hs.aggressive
    have hnone := le_antisymm (hreduction'.trans hloss.symm.le) hreduction
    rw [hs.step_noUpdate haccepts hx hloss.symm, hnone, mul_zero, add_zero]
    exact ⟨w, { hs.measuring y with }, rfl⟩
  · rcases s.settings.variant.rule.stride_cases hloss.le (squaredNorm_nonneg x) hs.aggressive with
      hstride | ⟨τ, -, hstride⟩
    · rw [hs.step_skipped haccepts hx rfl hloss hstride, StepRule.reduction, hstride, mul_zero,
        add_zero]
      exact ⟨w, { hs.measuring y with }, rfl⟩
    · rw [hs.step_updated haccepts hx rfl hloss hstride]
      refine ⟨_, (hs.measuring y).withWeights _ _ _, ?_⟩
      rw [w.dot_moved, overlap_self hdistinct hself, StepRule.reduction, hstride, mul_assoc]

/-- The session after a number of presentations of one example. -/
def repeated (s : Session ι (Exact K)) (x : Features ι K) (y : K) (times : ℕ) :
    Session ι (Exact K) :=
  (s.feed (List.replicate times (Example.map finite (x, y)))).1

omit [IsStrictOrderedRing K] [LawfulKey ι] in
theorem repeated_succ (s : Session ι (Exact K)) (x : Features ι K) (y : K) (k : ℕ) :
    s.repeated x y (k + 1) =
      ((s.repeated x y k).step (x.map (Feature.map finite)) (finite y)).1 :=
  s.feed_replicate_succ _ _ k

omit [IsStrictOrderedRing K] [LawfulKey ι] in
theorem settings_repeated (s : Session ι (Exact K)) (x : Features ι K) (y : K) (k : ℕ) :
    (s.repeated x y k).settings = s.settings ∧
      (s.repeated x y k).aggressiveness = s.aggressiveness :=
  s.settings_feed _

/-- **Any number of presentations.** -/
theorem Holds.approaches (hs : s.Holds epsilon w none) (hepsilon : 0 ≤ epsilon)
    (haccepts : s.phase ≠ .finalized) (hx : ∀ f ∈ x, Key.check f.id = .ok ())
    (hdistinct : DistinctIds x) (hself : ∀ f ∈ x, Key.same f.id f.id = true) (k : ℕ) :
    ∃ w', (s.repeated x y k).Holds epsilon w' none ∧ (s.repeated x y k).phase ≠ .finalized ∧
      Approaches s.settings.variant.rule (squaredNorm x) s.aggressiveness y epsilon (w.dot x) k
        (w'.dot x) := by
  induction k with
  | zero => exact ⟨w, hs, haccepts, .zero⟩
  | succ k ih =>
      obtain ⟨w', hs', haccepts', happroaches⟩ := ih
      obtain ⟨hsettings, haggressive⟩ := s.settings_repeated x y k
      obtain ⟨w'', hs'', hdot⟩ := hs'.step_toward (y := y) haccepts' hx hdistinct hself
      rw [hsettings, haggressive] at hdot
      rw [repeated_succ]
      refine ⟨w'', hs'', accepts_step haccepts' _ _, ?_⟩
      rw [hdot]
      exact happroaches.succ hepsilon (squaredNorm_nonneg x) hs.aggressive

/-- What becomes of one example that is presented to a session as often as wanted, where steps have
sizes by the given rule and aggressiveness.

Every presentation comes to a report.  Its loss has the closed form; the prediction never goes past
the target, and as long as there is a loss the target stays strictly on the side it was on; and
from the first presentation without a loss on, nothing is done and the weights stay as they are. -/
structure Converges (s : Session ι (Exact K)) (rule : StepRule) (c : Exact K) (x : Features ι K)
    (y : K) (report : ℕ → Outcome (Exact K)) (predicted loss : ℕ → K) : Prop where
  step_eq : ∀ k,
    ((s.repeated x y k).step (x.map (Feature.map finite)) (finite y)).2 = .ok (report k)
  predicted_eq : ∀ k, (report k).predicted = finite (predicted k)
  norm_eq : ∀ k, (report k).squaredNorm = finite (squaredNorm x)
  loss_eq : ∀ k, (report k).loss = finite (loss k)
  closed_form : ∀ k, loss k = rule.lossAfter (squaredNorm x) c (loss 0) k
  not_past : ∀ k, 0 ≤ (y - predicted 0) * (y - predicted k)
  same_side : ∀ k, 0 < loss k →
    SignType.sign (y - predicted k) = SignType.sign (y - predicted 0)
  fixed : ∀ k, loss k = 0 → ∀ j, k ≤ j →
    (report j).status = .noUpdate ∧ (s.repeated x y (j + 1)).weights = (s.repeated x y k).weights

/-- From any session of numbers that has no spread, a repetition converges. -/
theorem Holds.converges (hs : s.Holds epsilon w none) (hepsilon : 0 ≤ epsilon)
    (haccepts : s.phase ≠ .finalized) (hx : ∀ f ∈ x, Key.check f.id = .ok ())
    (hdistinct : DistinctIds x) (hself : ∀ f ∈ x, Key.same f.id f.id = true) (y : K) :
    ∃ report predicted loss,
      s.Converges s.settings.variant.rule s.aggressiveness x y report predicted loss := by
  choose weights hholds hphase happroaches using fun k =>
    hs.approaches (y := y) hepsilon haccepts hx hdistinct hself k
  choose report hreport hpredicted hnorm hloss hmargin using fun k =>
    (hholds k).exists_outcome (y := y) (hphase k) hx rfl
  have hfirst : weights 0 = w := (hholds 0).weights_unique hs
  -- a presentation without a loss leaves the weights
  have hstay : ∀ k, excess ((weights k).dot x) y epsilon = 0 →
      (report k).status = .noUpdate ∧ weights (k + 1) = weights k := by
    intro k hzero
    have hstep := (hholds k).step_noUpdate (hphase k) hx hzero
    constructor
    · have hresult := (hreport k).symm.trans (congrArg Prod.snd hstep)
      rw [Except.ok.inj hresult]
    · have hsame : (s.repeated x y (k + 1)).Holds epsilon (weights k) none := by
        rw [repeated_succ, hstep]
        exact { (hholds k).measuring y with }
      exact (hholds (k + 1)).weights_unique hsame
  have hfixed : ∀ k, excess ((weights k).dot x) y epsilon = 0 → ∀ j, k ≤ j →
      weights j = weights k := by
    intro k hzero j hkj
    induction j, hkj using Nat.le_induction with
    | base => rfl
    | succ j hkj ih =>
        rw [← ih] at hzero
        exact (hstay j hzero).2.trans ih
  refine ⟨report, fun k => (weights k).dot x, fun k => excess ((weights k).dot x) y epsilon,
    hreport, hpredicted, hnorm, hloss, fun k => ?_, fun k => ?_, fun k hpos => ?_,
    fun k hzero j hkj => ?_⟩
  · rw [(happroaches k).loss_eq, hfirst]
  · rw [hfirst, sub_eq_direction_mul_abs (w.dot x) y, mul_right_comm]
    exact mul_nonneg (happroaches k).not_past (abs_nonneg _)
  · -- there was a loss at first, or there would be none now
    have hpos₀ : 0 < excess ((weights 0).dot x) y epsilon := by
      refine (excess_nonneg _ _ _).lt_of_ne fun hzero => ?_
      rw [hfixed 0 hzero.symm k (Nat.zero_le k), ← hzero] at hpos
      exact lt_irrefl 0 hpos
    rw [sign_sub hepsilon hpos, sign_sub hepsilon hpos₀, (happroaches k).same_side hpos, hfirst]
  · have hj := hfixed k hzero j hkj
    obtain ⟨hstatus, hnext⟩ := hstay j (by rw [hj, hzero])
    refine ⟨hstatus, ?_⟩
    rw [(hholds (j + 1)).weights_eq, (hholds k).weights_eq, hnext, hj]

/-- **Repeating an example** converges at a known rate, and then nothing changes any more.  Over exact
numbers, for every variant that is not adaptive, every aggressiveness and a margin that is not
negative, take any session that calls have led to and that has not been finalized, and present to
it one example, whose ids are different keys, as often as wanted.  (An id that is no number is not
the same key as itself; with one of those it would be a new example every time.) -/
theorem repetition_converges {settings : Settings (Exact K)}
    (he : settings.epsilon = finite epsilon) (hepsilon : 0 ≤ epsilon)
    (hvariant : settings.variant.adaptive = false) (hs : create settings = .ok s)
    {calls : List (Call ι K)} (hopen : .finalize ∉ calls)
    (hx : ∀ f ∈ x, Key.check f.id = .ok ()) (hdistinct : DistinctIds x)
    (hself : ∀ f ∈ x, Key.same f.id f.id = true) (y : K) :
    ∃ report predicted loss,
      (s.after (calls.map (Call.map finite))).Converges settings.variant.rule s.aggressiveness x y
        report predicted loss := by
  obtain ⟨w, t, hheld, hsome⟩ := (holds_of_create he hs).after calls
  obtain ⟨hsettings, haggressive⟩ := s.settings_after (calls.map (Call.map finite))
  have hcreated : s.phase = .idle ∧ s.settings = settings := by
    rw [eq_of_create hs]
    exact ⟨rfl, rfl⟩
  have hidle : (s.after (calls.map (Call.map finite))).phase = .idle :=
    idle_after hcreated.1 (mt (Call.finalize_mem_map finite calls).1 hopen)
  have hnone : t = none := by
    rw [hvariant, if_neg Bool.false_ne_true] at hsome
    cases t with
    | none => rfl
    | some t => cases hsome
  subst hnone
  have hconverges := hheld.converges hepsilon (accepts_of_idle hidle) hx hdistinct hself y
  rwa [hsettings, haggressive, hcreated.2] at hconverges

/-- A softened session with a weight that was added to directly, and an example that it has met with
another target and in another spelling. -/
theorem repetition_converges_pa2 :
    ∃ (s : Session Value (Exact ℝ)) (calls : List (Call Value ℝ)) (x : Features Value ℝ),
      create ⟨.pa2, some (finite 2), finite (1 / 10)⟩ = .ok s ∧ (0 : ℝ) ≤ 1 / 10 ∧
      calls = [.step [⟨.bool true, 3⟩] 1, .adjust (.text "b") 2, .step [⟨.list [], 1⟩] 5,
        .predict []] ∧
      x = [⟨.int 1, 2⟩, ⟨.text "b", 1⟩, ⟨.null, -1⟩] ∧
      ∃ report predicted loss,
        (s.after (calls.map (Call.map finite))).Converges .softened s.aggressiveness x (-4)
          report predicted loss := by
  obtain ⟨s, hs⟩ : ∃ s : Session Value (Exact ℝ),
      create ⟨.pa2, some (finite 2), finite (1 / 10)⟩ = .ok s :=
    exists_create (.inr ⟨2, two_pos, rfl⟩)
  refine ⟨s, _, _, hs, by norm_num, rfl, rfl, ?_⟩
  refine repetition_converges rfl (by norm_num) rfl hs (by simp) ?_ ?_ ?_ (-4)
  · decide +kernel
  · unfold DistinctIds
    decide +kernel
  · decide +kernel

end Session
end PassiveAggressive

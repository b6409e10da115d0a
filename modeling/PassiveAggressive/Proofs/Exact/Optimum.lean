import PassiveAggressive.Proofs.Exact.CumulativeBound
import PassiveAggressive.Proofs.Exact.Displacement
import PassiveAggressive.Proofs.Exact.Repetition

/-!
# A step is an optimum

The step sizes are formulas, and the formulas are solutions.  Weigh how far the weights go,
half the squared distance, against what is left of the loss: the loss itself times the
aggressiveness where steps are capped, its square times the aggressiveness where they are
softened (`StepRule.penalty`).  No weights at all come to less than those after the step
(`step_optimal_capped`, `step_optimal_softened`).  Where nothing holds a step back there is no
such balance, and the weights after the step are the nearest ones without a loss.

## The certificate

The step size `τ` is itself the proof.  Rival weights with the loss `R` cannot be nearer to the
weights before the step than `2 τ (L - R) - τ² N`, whatever they are, since otherwise the moved
weights would be at a negative squared distance from them (`Displaced.certificate`).  So
distances are compared with one number each, without ever looking at the rival's direction,
and what is left is a statement about penalties: that of any loss `r` lies on or above the
line of slope `τ` through that of the loss which the step leaves (`penalty_support`).  Here
alone the two rules differ.  A capped step is the cap, or leaves no loss and is smaller
(`taken_capped`); a softened one is twice the aggressiveness times the loss it leaves
(`taken_softened`).

That the step leaves the loss `L - τ N` is where the margin must not be negative.  With a
negative one the loss is more than the distance from the target, and a step that takes off
all of it goes past the target.
-/

namespace PassiveAggressive

open Exact

variable {ι K : Type} [Field K] [LinearOrder K]

/-! ## What a loss costs, and the step for it -/

namespace StepRule

/-- What a loss costs: a multiple of it where steps are capped, and of its square where they are
softened. -/
def penalty (rule : StepRule) (a loss : K) : K :=
  match rule with
  | capped => a * loss
  | softened => a * loss ^ 2

/-- The step that is taken for a loss: none if there is no loss, and none if there is no finite
stride. -/
def taken (rule : StepRule) (loss norm : K) (c : Exact K) : K :=
  if loss = 0 then 0
  else
    match rule.stride loss norm c with
    | finite τ => τ
    | _ => 0

variable {rule : StepRule} {loss norm : K} {c : Exact K}

theorem taken_zero (rule : StepRule) (norm : K) (c : Exact K) : rule.taken 0 norm c = 0 :=
  if_pos rfl

theorem taken_of_stride (hloss : 0 < loss) {τ : K} (h : rule.stride loss norm c = finite τ) :
    rule.taken loss norm c = τ := by
  rw [taken, if_neg hloss.ne', h]

theorem taken_of_stride_infinite (hloss : 0 < loss) {negative : Bool}
    (h : rule.stride loss norm c = infinite negative) : rule.taken loss norm c = 0 := by
  rw [taken, if_neg hloss.ne', h]

variable [IsStrictOrderedRing K]

theorem taken_nonneg (rule : StepRule) (hloss : 0 ≤ loss) (hnorm : 0 ≤ norm) (hc : c.Positive) :
    0 ≤ rule.taken loss norm c := by
  rcases hloss.eq_or_lt with rfl | hpos
  · rw [taken_zero]
  · rcases rule.stride_cases hloss hnorm hc with h | ⟨τ, hτ, h⟩
    · rw [taken_of_stride_infinite hpos h]
    · rw [taken_of_stride hpos h]
      exact hτ

theorem taken_mul (rule : StepRule) (hloss : 0 ≤ loss) (hnorm : 0 ≤ norm) (hc : c.Positive) :
    rule.taken loss norm c * norm = rule.reduction loss norm c := by
  rcases hloss.eq_or_lt with rfl | hpos
  · obtain ⟨hle, hge⟩ := rule.reduction_mem le_rfl hnorm hc
    rw [taken_zero, zero_mul, le_antisymm hge hle]
  · rw [reduction]
    rcases rule.stride_cases hloss hnorm hc with h | ⟨τ, -, h⟩
    · rw [taken_of_stride_infinite hpos h, h, zero_mul]
    · rw [taken_of_stride hpos h, h]

omit [IsStrictOrderedRing K] in
/-- **A capped step** is the cap, or is at most the cap and leaves no loss. -/
theorem taken_capped {a : K} (ha : 0 < a) (hloss : 0 ≤ loss) (norm : K) :
    capped.taken loss norm (finite a) = a ∨
      capped.taken loss norm (finite a) ≤ a ∧
        loss - capped.taken loss norm (finite a) * norm = 0 := by
  rcases hloss.eq_or_lt with rfl | hpos
  · right
    rw [taken_zero, zero_mul, sub_zero]
    exact ⟨ha.le, rfl⟩
  · rw [taken_of_stride hpos rfl]
    by_cases h : norm = 0
    · exact .inl (if_pos h)
    · rw [if_neg h]
      rcases le_total a (loss / norm) with hle | hle
      · exact .inl (min_eq_left hle)
      · right
        rw [min_eq_right hle, div_mul_cancel₀ _ h, sub_self]
        exact ⟨hle, rfl⟩

/-- **A softened step** is twice the aggressiveness times the loss that it leaves. -/
theorem taken_softened {a : K} (ha : 0 < a) (hloss : 0 ≤ loss) (hnorm : 0 ≤ norm) :
    softened.taken loss norm (finite a) =
      2 * a * (loss - softened.taken loss norm (finite a) * norm) := by
  rcases hloss.eq_or_lt with rfl | hpos
  · rw [taken_zero, zero_mul, sub_zero, mul_zero]
  · rw [taken_of_stride hpos rfl]
    have hsum : norm + softening a ≠ 0 :=
      (add_pos_of_nonneg_of_pos hnorm (softening_pos ha)).ne'
    -- the loss that is left is the step times the softening
    have hleft : loss - loss / (norm + softening a) * norm =
        loss / (norm + softening a) * softening a := by
      linear_combination -(div_mul_cancel₀ loss hsum)
    have hunit : 2 * a * softening a = 1 := by
      rw [softening, one_add_one_eq_two]
      field_simp
    rw [hleft, mul_left_comm, hunit, mul_one]

/-- **The penalty lies above a line** through the loss that the step leaves, with the step for its
slope. -/
theorem penalty_support (rule : StepRule) {a : K} (ha : 0 < a) (hloss : 0 ≤ loss)
    (hnorm : 0 ≤ norm) {r : K} (hr : 0 ≤ r) :
    rule.penalty a (loss - rule.taken loss norm (finite a) * norm) ≤
      rule.penalty a r + rule.taken loss norm (finite a) *
        (loss - rule.taken loss norm (finite a) * norm - r) := by
  cases rule with
  | capped =>
      rcases taken_capped ha hloss norm with h | ⟨hle, h⟩
      · rw [h]
        apply le_of_eq
        simp only [penalty]
        ring
      · rw [h]
        have := mul_le_mul_of_nonneg_right hle hr
        simp only [penalty]
        linarith
  | softened =>
      -- a parabola lies above its tangents
      have h := taken_softened ha hloss hnorm
      generalize loss - softened.taken loss norm (finite a) * norm = m at h ⊢
      have hsquare : 0 ≤ a * (r - m) ^ 2 := mul_nonneg ha.le (sq_nonneg _)
      rw [h]
      simp only [penalty]
      linarith

end StepRule

variable [Key ι]

/-! ## One step, of weights alone -/

/-- The weights go from `w` to `w'` by one step of size `τ` along the example, towards the target,
with margin `e`. -/
structure StepRule.Leads (rule : StepRule) (c : Exact K) (x : Features ι K) (y e τ : K)
    (w w' : WeightMap ι K) : Prop where
  size_eq : τ = rule.taken (excess (w.dot x) y e) (squaredNorm x) c
  displaced : w.Displaced (direction (w.dot x) y * τ) x w'

variable [IsStrictOrderedRing K]

theorem WeightMap.dot_eq_zero {x : Features ι K} (h : squaredNorm x = 0) (w : WeightMap ι K) :
    w.dot x = 0 := by
  refine List.sum_eq_zero fun b hb => ?_
  obtain ⟨f, hf, rfl⟩ := List.mem_map.1 hb
  rw [squaredNorm_eq_zero_iff.1 h f hf, mul_zero]

variable {w w' u : WeightMap ι K} {x : Features ι K} {y e τ : K}

/-- **The certificate**: how near a rival can be, given its loss. -/
theorem WeightMap.Displaced.certificate (h : w.Displaced (direction (w.dot x) y * τ) x w')
    (hτ : 0 ≤ τ) (hloss : 0 < excess (w.dot x) y e) (hu : u.DistinctKeys) :
    2 * τ * (excess (w.dot x) y e - excess (u.dot x) y e) - τ ^ 2 * squaredNorm x ≤
      w.sqDist u := by
  have hgain := mul_le_mul_of_nonneg_left (excess_sub_le hloss (u.dot x)) hτ
  have hmoved := w'.sqDist_nonneg u
  rw [h.sqDist_eq u hu, mul_pow, direction_sq, one_mul] at hmoved
  linarith

namespace StepRule.Leads

variable {rule : StepRule} {c : Exact K}

theorem loss_eq (h : rule.Leads c x y e τ w w') (hc : c.Positive) (he : 0 ≤ e) :
    excess (w'.dot x) y e = excess (w.dot x) y e - τ * squaredNorm x := by
  have hloss := excess_nonneg (w.dot x) y e
  have hnorm := squaredNorm_nonneg x
  obtain ⟨hnonneg, hle⟩ := rule.reduction_mem hloss hnorm hc
  rw [← rule.taken_mul hloss hnorm hc, ← h.size_eq] at hnonneg hle
  rw [h.displaced.dot_eq, mul_assoc]
  exact excess_move he hnonneg hle

omit [IsStrictOrderedRing K] in
theorem sqDist_eq [LawfulKey ι] (h : rule.Leads c x y e τ w w') (hw : w.DistinctKeys) :
    w'.sqDist w = τ ^ 2 * squaredNorm x := by
  rw [h.displaced.sqDist_self hw, mul_pow, direction_sq, one_mul]

/-- The certificate, also where no step is taken. -/
theorem certificate (h : rule.Leads c x y e τ w w') (hc : c.Positive) (hu : u.DistinctKeys) :
    2 * τ * (excess (w.dot x) y e - excess (u.dot x) y e) - τ ^ 2 * squaredNorm x ≤
      w.sqDist u := by
  rcases (excess_nonneg (w.dot x) y e).eq_or_lt with hzero | hpos
  · have hnone : τ = 0 := by rw [h.size_eq, ← hzero, taken_zero]
    rw [hnone, mul_zero, zero_mul, zero_pow two_ne_zero, zero_mul, sub_zero]
    exact w.sqDist_nonneg u
  · refine h.displaced.certificate ?_ hpos hu
    rw [h.size_eq]
    exact rule.taken_nonneg hpos.le (squaredNorm_nonneg x) hc

variable [LawfulKey ι]

/-- **No rival comes to less** than half the squared distance and the penalty of a step. -/
theorem optimal {a : K} (h : rule.Leads (finite a) x y e τ w w') (ha : 0 < a) (he : 0 ≤ e)
    (hw : w.DistinctKeys) (hu : u.DistinctKeys) :
    w'.sqDist w / 2 + rule.penalty a (excess (w'.dot x) y e) ≤
      w.sqDist u / 2 + rule.penalty a (excess (u.dot x) y e) := by
  have hc : (finite a).Positive := .inr ⟨a, ha, rfl⟩
  have hdistance := h.certificate hc hu
  have hpenalty := rule.penalty_support ha (excess_nonneg (w.dot x) y e) (squaredNorm_nonneg x)
    (excess_nonneg (u.dot x) y e)
  rw [← h.size_eq] at hpenalty
  rw [h.sqDist_eq hw, h.loss_eq hc he]
  calc τ ^ 2 * squaredNorm x / 2 + rule.penalty a (excess (w.dot x) y e - τ * squaredNorm x)
      ≤ τ ^ 2 * squaredNorm x / 2 + (rule.penalty a (excess (u.dot x) y e) +
          τ * (excess (w.dot x) y e - τ * squaredNorm x - excess (u.dot x) y e)) :=
        add_le_add_right hpenalty _
    _ = (2 * τ * (excess (w.dot x) y e - excess (u.dot x) y e) - τ ^ 2 * squaredNorm x) / 2 +
          rule.penalty a (excess (u.dot x) y e) := by ring
    _ ≤ w.sqDist u / 2 + rule.penalty a (excess (u.dot x) y e) :=
        add_le_add_left (div_le_div_of_nonneg_right hdistance two_pos.le) _

/-- **A step that nothing holds back** leads to the nearest weights without a loss, if there are
any. -/
theorem nearest (h : rule.Leads (infinite false) x y e τ w w') (he : 0 ≤ e) (hw : w.DistinctKeys)
    (hu : u.DistinctKeys) (hrival : excess (u.dot x) y e = 0) :
    excess (w'.dot x) y e = 0 ∧ w'.sqDist w ≤ w.sqDist u := by
  have hc : (infinite false : Exact K).Positive := .inl rfl
  have hloss := excess_nonneg (w.dot x) y e
  -- all of the loss is taken off; an example without length has the rival's score, and no loss
  have hall : τ * squaredNorm x = excess (w.dot x) y e := by
    rw [h.size_eq, rule.taken_mul hloss (squaredNorm_nonneg x) hc, reduction_infinite]
    split
    · rename_i hnorm
      have hsame : w.dot x = u.dot x := (w.dot_eq_zero hnorm).trans (u.dot_eq_zero hnorm).symm
      rw [hsame, hrival]
    · rfl
  have hdistance := h.certificate hc hu
  rw [hrival, sub_zero, ← hall] at hdistance
  refine ⟨?_, ?_⟩
  · rw [h.loss_eq hc he, hall, sub_self]
  · rw [h.sqDist_eq hw]
    linarith

end StepRule.Leads

/-! ## One step of a session -/

variable [SquareRoot K]

namespace Session

variable {s : Session ι (Exact K)} {epsilon : K} {t : Option (Spread K)}

/-- What a step on an example is judged by: the weights before it and after it, the margin that is
reported, and the loss of any weights on the example with this margin. -/
structure Assessed (s : Session ι (Exact K)) (x : Features ι K) (y : K) (w w' : WeightMap ι K)
    (e : K) (loss : WeightMap ι K → K) : Prop where
  before_eq : s.weights = w.map finite
  after_eq : (s.step (x.map (Feature.map finite)) (finite y)).1.weights = w'.map finite
  reported : ∃ o : Outcome (Exact K),
    (s.step (x.map (Feature.map finite)) (finite y)).2 = .ok o ∧ o.epsilon = finite e ∧
      ∀ v, rivalLoss (v.map finite) (Example.map finite (x, y)) o = .ok (finite (loss v))

theorem Assessed.loss_eq {loss : WeightMap ι K → K} (h : s.Assessed x y w w' e loss)
    (hx : ∀ f ∈ x, Key.check f.id = .ok ()) (v : WeightMap ι K) :
    loss v = excess (v.dot x) y e := by
  obtain ⟨o, -, ho, hloss⟩ := h.reported
  have hrival := (hloss v).symm.trans (rivalLoss_exact hx ho v)
  exact finite.inj (Except.ok.inj hrival)

variable [LawfulKey ι]

/-- **The step of a session** is one step of the rule, whatever it comes to. -/
theorem Holds.exists_leads (hs : s.Holds epsilon w t) (haccepts : s.phase ≠ .finalized)
    (hx : ∀ f ∈ x, Key.check f.id = .ok ()) (hdistinct : DistinctIds x)
    (hself : ∀ f ∈ x, Key.same f.id f.id = true) (y : K) :
    ∃ w' e τ, s.Assessed x y w w' e (fun v => excess (v.dot x) y e) ∧
      s.settings.variant.rule.Leads s.aggressiveness x y e τ w w' := by
  obtain ⟨e, hm⟩ : ∃ e, marginAfter epsilon (t.map (Spread.taking · y)) = e := ⟨_, rfl⟩
  obtain ⟨o, ho, -, -, -, hmargin⟩ := hs.exists_outcome haccepts hx hm
  have hassessed : ∀ w' : WeightMap ι K,
      (s.step (x.map (Feature.map finite)) (finite y)).1.weights = w'.map finite →
        s.Assessed x y w w' e (fun v => excess (v.dot x) y e) := fun w' hafter =>
    ⟨hs.weights_eq, hafter, o, ho, hmargin, rivalLoss_exact hx hmargin⟩
  -- where no step is taken the weights stay, and are displaced by nothing
  have hstay : s.settings.variant.rule.taken (excess (w.dot x) y e) (squaredNorm x)
        s.aggressiveness = 0 →
      s.settings.variant.rule.Leads s.aggressiveness x y e 0 w w := fun h =>
    ⟨h.symm, by rw [mul_zero]; exact .refl w x⟩
  rcases (excess_nonneg (w.dot x) y e).eq_or_lt with hloss | hloss
  · refine ⟨w, e, 0, hassessed w ?_, hstay ?_⟩
    · subst hm
      rw [hs.step_noUpdate haccepts hx hloss.symm]
      exact hs.weights_eq
    · rw [← hloss, StepRule.taken_zero]
  · rcases s.settings.variant.rule.stride_cases hloss.le (squaredNorm_nonneg x) hs.aggressive with
      hstride | ⟨τ, -, hstride⟩
    · refine ⟨w, e, 0, hassessed w ?_, hstay ?_⟩
      · rw [hs.step_skipped haccepts hx hm hloss hstride]
        exact hs.weights_eq
      · exact StepRule.taken_of_stride_infinite hloss hstride
    · refine ⟨_, e, τ, hassessed _ ?_, ⟨?_, w.displaced_moved _ hdistinct hself⟩⟩
      · rw [hs.step_updated haccepts hx hm hloss hstride]
      · rw [StepRule.taken_of_stride hloss hstride]

/-! ## Any session -/

section AfterCalls

variable {settings : Settings (Exact K)} (he : settings.epsilon = finite epsilon)
  (hs : create settings = .ok s) {calls : List (Call ι K)} (hopen : .finalize ∉ calls)

include he hs hopen

omit [LawfulKey ι] in
theorem exists_holds_after :
    ∃ w t, (s.after (calls.map (Call.map finite))).Holds epsilon w t ∧
      (s.after (calls.map (Call.map finite))).phase ≠ .finalized := by
  obtain ⟨w, t, hheld, -⟩ := (holds_of_create he hs).after calls
  have hidle : s.phase = .idle := by rw [eq_of_create hs]
  exact ⟨w, t, hheld,
    accepts_of_idle (idle_after hidle (mt (Call.finalize_mem_map finite calls).1 hopen))⟩

omit [LawfulKey ι] in
theorem Assessed.margin_nonneg [LawfulSquareRoot K] (hepsilon : 0 ≤ epsilon)
    (hx : ∀ f ∈ x, Key.check f.id = .ok ()) {loss : WeightMap ι K → K}
    (h : (s.after (calls.map (Call.map finite))).Assessed x y w w' e loss) : 0 ≤ e := by
  obtain ⟨w₀, t, hheld, haccepts⟩ := exists_holds_after he hs hopen
  obtain ⟨o, ho, -, -, -, hmargin⟩ := hheld.exists_outcome (y := y) haccepts hx rfl
  obtain ⟨o', ho', hmargin', -⟩ := h.reported
  cases ho.symm.trans ho'
  cases hmargin.symm.trans hmargin'
  exact marginAfter_nonneg hepsilon (hheld.measuring y).sum_nonneg

/-- The next step of the session is one step of its rule, from weights whose ids are kept apart. -/
theorem exists_leads_after (hx : ∀ f ∈ x, Key.check f.id = .ok ()) (hdistinct : DistinctIds x)
    (hself : ∀ f ∈ x, Key.same f.id f.id = true) (y : K) :
    ∃ w w' e τ, (s.after (calls.map (Call.map finite))).Assessed x y w w' e
        (fun v => excess (v.dot x) y e) ∧
      settings.variant.rule.Leads s.aggressiveness x y e τ w w' ∧ w.DistinctKeys := by
  obtain ⟨w, t, hheld, haccepts⟩ := exists_holds_after he hs hopen
  obtain ⟨w', e, τ, hassessed, hleads⟩ := hheld.exists_leads haccepts hx hdistinct hself y
  obtain ⟨hsettings, haggressive⟩ := s.settings_after (calls.map (Call.map finite))
  have hcreated : s.settings = settings := by rw [eq_of_create hs]
  have hkeys : (s.after (calls.map (Call.map finite))).weights.DistinctKeys := by
    refine distinctKeys_after ?_ _
    rw [eq_of_create hs]
    exact WeightMap.distinctKeys_empty
  rw [hheld.weights_eq, WeightMap.DistinctKeys, WeightMap.keys_map] at hkeys
  rw [hsettings, haggressive, hcreated] at hleads
  exact ⟨w, w', e, τ, hassessed, hleads, hkeys⟩

end AfterCalls

/-! ### An example, and a session that meets it -/

/-- An example with ids of three kinds. -/
noncomputable def assorted : Features Value ℝ := [⟨.int 1, 1⟩, ⟨.text "b", -1⟩, ⟨.null, 1⟩]

theorem distinct_assorted : (∀ f ∈ assorted, Key.check f.id = .ok ()) ∧ DistinctIds assorted ∧
    ∀ f ∈ assorted, Key.same f.id f.id = true := by
  refine ⟨?_, ?_, ?_⟩
  · decide +kernel
  · unfold DistinctIds
    decide +kernel
  · decide +kernel

/-- Calls that make a session acquainted with two of these ids, one of them in another spelling, and
an example that fails. -/
noncomputable def acquaintance : List (Call Value ℝ) :=
  [.step [⟨.bool true, 1⟩] 1, .adjust (.text "b") 1, .step [⟨.list [], 1⟩] 1, .predict []]

theorem finalize_notMem_acquaintance : .finalize ∉ acquaintance := by
  simp [acquaintance]

/-- Weights for two of the ids, one of them in another spelling. -/
noncomputable def contender : WeightMap Value ℝ := ⟨[(.text "b", 1), (.bool true, -1)]⟩

theorem distinctKeys_contender : contender.DistinctKeys := by
  unfold WeightMap.DistinctKeys
  decide +kernel

theorem dot_contender : contender.dot assorted = -2 := by
  have hsum : contender.dot assorted = -1 * 1 + (1 * -1 + (0 * 1 + 0)) := rfl
  rw [hsum]
  norm_num

/-! ### The two rules -/

/-- **A capped step is an optimum.**  Over exact numbers, take any session with capped steps that
calls have led to and that has not been finalized, and an example whose ids are different keys.  (An
id that is no number is not the same key as itself, and no weight for it would ever be found.)  The
example comes to a report.  If the margin in it is not negative, then no weights come to less than
those after the step, in half the squared distance from the weights before it plus the
aggressiveness times the loss; and where the aggressiveness is infinite and there are weights
without a loss, the step leads to such weights, and none of them is nearer. -/
theorem step_optimal_capped {settings : Settings (Exact K)}
    (he : settings.epsilon = finite epsilon) (hs : create settings = .ok s)
    {calls : List (Call ι K)} (hopen : .finalize ∉ calls)
    (hvariant : settings.variant = .pa1 ∨ settings.variant = .pa1a)
    (hx : ∀ f ∈ x, Key.check f.id = .ok ()) (hdistinct : DistinctIds x)
    (hself : ∀ f ∈ x, Key.same f.id f.id = true) (y : K) :
    ∃ w w' e loss, (s.after (calls.map (Call.map finite))).Assessed x y w w' e loss ∧
      (0 ≤ e → ∀ u : WeightMap ι K, u.DistinctKeys →
        (∀ a, s.aggressiveness = finite a →
          w'.sqDist w / 2 + a * loss w' ≤ w.sqDist u / 2 + a * loss u) ∧
        (s.aggressiveness = infinite false → loss u = 0 →
          loss w' = 0 ∧ w'.sqDist w ≤ w.sqDist u)) := by
  obtain ⟨w, w', e, τ, hassessed, hleads, hw⟩ :=
    exists_leads_after he hs hopen hx hdistinct hself y
  rw [Variant.rule_eq_capped_iff.2 hvariant] at hleads
  refine ⟨w, w', e, _, hassessed, fun hmargin u hu => ⟨fun a ha => ?_, fun hinfinite hrival => ?_⟩⟩
  · rw [ha] at hleads
    exact hleads.optimal (Exact.pos_of_positive (ha ▸ aggressive_of_create hs)) hmargin hw hu
  · rw [hinfinite] at hleads
    exact hleads.nearest hmargin hw hu hrival

/-- A rival that predicts the target, against a capped session with an adaptive margin and against
one whose steps nothing holds back. -/
theorem step_optimal_capped_assorted :
    ∃ s s' : Session Value (Exact ℝ),
      create ⟨.pa1a, some (finite 2), finite (1 / 10)⟩ = .ok s ∧
      create ⟨.pa1, none, finite (1 / 10)⟩ = .ok s' ∧
      (∃ w w' e loss,
        (s.after (acquaintance.map (Call.map finite))).Assessed assorted (-2) w w' e loss ∧ 0 ≤ e ∧
        w'.sqDist w / 2 + 2 * loss w' ≤ w.sqDist contender / 2 + 2 * loss contender) ∧
      ∃ w w' e loss,
        (s'.after (acquaintance.map (Call.map finite))).Assessed assorted (-2) w w' e loss ∧ 0 ≤ e ∧
        loss contender = 0 ∧ loss w' = 0 ∧ w'.sqDist w ≤ w.sqDist contender := by
  obtain ⟨s, hs⟩ : ∃ s : Session Value (Exact ℝ),
      create ⟨.pa1a, some (finite 2), finite (1 / 10)⟩ = .ok s :=
    exists_create (.inr ⟨2, two_pos, rfl⟩)
  obtain ⟨s', hs'⟩ : ∃ s : Session Value (Exact ℝ),
      create ⟨.pa1, none, finite (1 / 10)⟩ = .ok s :=
    exists_create (.inl rfl)
  obtain ⟨hkeys, hids, hself⟩ := distinct_assorted
  refine ⟨s, s', hs, hs', ?_, ?_⟩
  · obtain ⟨w, w', e, loss, hassessed, hle⟩ :=
      step_optimal_capped rfl hs finalize_notMem_acquaintance (.inr rfl) hkeys hids hself (-2)
    have hmargin := hassessed.margin_nonneg rfl hs finalize_notMem_acquaintance (by norm_num) hkeys
    have hrival := hle hmargin contender distinctKeys_contender
    exact ⟨w, w', e, loss, hassessed, hmargin, hrival.1 2 (aggressiveness_of_create hs)⟩
  · obtain ⟨w, w', e, loss, hassessed, hle⟩ :=
      step_optimal_capped rfl hs' finalize_notMem_acquaintance (.inl rfl) hkeys hids hself (-2)
    have hmargin := hassessed.margin_nonneg rfl hs' finalize_notMem_acquaintance (by norm_num) hkeys
    have hrival := hle hmargin contender distinctKeys_contender
    have hfree : loss contender = 0 := by
      rw [hassessed.loss_eq hkeys, dot_contender, excess, sub_self, abs_zero, zero_sub]
      exact max_eq_right (neg_nonpos.2 hmargin)
    exact ⟨w, w', e, loss, hassessed, hmargin, hfree,
      hrival.2 (aggressiveness_of_create hs') hfree⟩

/-- **A softened step is an optimum.**  The same of a session with softened steps and a finite
aggressiveness, where the square of the loss counts: no weights come to less than those after the
step, in half the squared distance from the weights before it plus the aggressiveness times the
squared loss. -/
theorem step_optimal_softened {settings : Settings (Exact K)}
    (he : settings.epsilon = finite epsilon) (hs : create settings = .ok s)
    {calls : List (Call ι K)} (hopen : .finalize ∉ calls)
    (hvariant : settings.variant = .pa2 ∨ settings.variant = .pa2a) {a : K}
    (ha : s.aggressiveness = finite a) (hx : ∀ f ∈ x, Key.check f.id = .ok ())
    (hdistinct : DistinctIds x) (hself : ∀ f ∈ x, Key.same f.id f.id = true) (y : K) :
    ∃ w w' e loss, (s.after (calls.map (Call.map finite))).Assessed x y w w' e loss ∧
      (0 ≤ e → ∀ u : WeightMap ι K, u.DistinctKeys →
        w'.sqDist w / 2 + a * loss w' ^ 2 ≤ w.sqDist u / 2 + a * loss u ^ 2) := by
  obtain ⟨w, w', e, τ, hassessed, hleads, hw⟩ :=
    exists_leads_after he hs hopen hx hdistinct hself y
  rw [Variant.rule_eq_softened_iff.2 hvariant, ha] at hleads
  exact ⟨w, w', e, _, hassessed, fun hmargin u hu =>
    hleads.optimal (Exact.pos_of_positive (ha ▸ aggressive_of_create hs)) hmargin hw hu⟩

/-- The same rival against a softened session with an adaptive margin. -/
theorem step_optimal_softened_assorted :
    ∃ s : Session Value (Exact ℝ),
      create ⟨.pa2a, some (finite 2), finite (1 / 10)⟩ = .ok s ∧ s.aggressiveness = finite 2 ∧
      ∃ w w' e loss,
        (s.after (acquaintance.map (Call.map finite))).Assessed assorted (-2) w w' e loss ∧ 0 ≤ e ∧
        w'.sqDist w / 2 + 2 * loss w' ^ 2 ≤
          w.sqDist contender / 2 + 2 * loss contender ^ 2 := by
  obtain ⟨s, hs⟩ : ∃ s : Session Value (Exact ℝ),
      create ⟨.pa2a, some (finite 2), finite (1 / 10)⟩ = .ok s :=
    exists_create (.inr ⟨2, two_pos, rfl⟩)
  have ha : s.aggressiveness = finite 2 := aggressiveness_of_create hs
  obtain ⟨hkeys, hids, hself⟩ := distinct_assorted
  obtain ⟨w, w', e, loss, hassessed, hle⟩ := step_optimal_softened rfl hs
    finalize_notMem_acquaintance (.inr rfl) ha hkeys hids hself (-2)
  have hmargin := hassessed.margin_nonneg rfl hs finalize_notMem_acquaintance (by norm_num) hkeys
  exact ⟨s, hs, ha, w, w', e, loss, hassessed, hmargin,
    hle hmargin contender distinctKeys_contender⟩

end Session
end PassiveAggressive

import Mathlib.Data.List.Forall2
import PassiveAggressive.Proofs.Session.Course
import PassiveAggressive.Proofs.Weights.Scoring

/-!
# Two sessions side by side

What a session does with an example depends on its weights only through the weights that
it reads for the ids of the example, and it changes them only by filing new ones under
these ids.  So two sessions that are otherwise the same come to the same outcome as long
as their models cannot be told apart by these ids, and it does not matter what else the
models hold, or whether they are filed under the same ids at all.

`Feature.Matches R` says that two features cannot be told apart by models in the relation
`R`: they have the same value, they read the same weight, and filing a weight under both
stays in `R`.  Sessions with such models are `Abreast R` if they have the same margin: then
they go through a step together until the step size is computed (`Abreast.step_or`).  They
are `Alike R` if they also compute the same step size, and then a step of both comes to the
same (`Alike.step`).

The step is taken apart on one side only, by its list of endings.  On the other side the
same ending is put together, and `StepsTo.step_eq` says that the step has it.

* `step_of_fixed`: without a spread, a step changes the weights and the counters only.
-/

namespace PassiveAggressive

/-! ## The endings of a step, read backwards -/

namespace Session

variable {ι α : Type} [Key ι] [Arithmetic α]

theorem Judged.step_eq {s : Session ι α} {x : Features ι α} {target : α} {seen : Margin α}
    {epsilon loss : α} (h : Judged s x target seen epsilon loss) :
    s.step x target =
      ({ ((s.evaluating target).settle x seen target loss epsilon).1 with phase := .idle },
        ((s.evaluating target).settle x seen target loss epsilon).2.mapError .fault) := by
  rw [step, if_neg h.accepts]
  simp only [learn, h.scored, margin_inPhase, h.margin_eq, h.loss_eq]
  rfl

/-- **A step has no other ending** than the one whose conditions are met. -/
theorem StepsTo.step_eq {s s' : Session ι α} {x : Features ι α} {target : α}
    {r : Except StepError (Outcome α)} (h : StepsTo s x target s' r) :
    s.step x target = (s', r) := by
  have hsize : ∀ (c : Counters) seen loss,
      ({ s.evaluating target with phase := .updating, counters := c } :
        Session ι α).stepSize seen target loss = s.stepSize seen target loss := fun _ _ _ => rfl
  cases h with
  | finalized h => exact step_of_finalized h x target
  | unscored haccepts h =>
    rw [step, if_neg haccepts]
    simp only [learn, h, Except.mapError]
  | unmeasured haccepts hscored h =>
    rw [step, if_neg haccepts]
    simp only [learn, hscored, margin_inPhase, h, Except.mapError]
    rfl
  | unjudged haccepts hscored hmargin h =>
    rw [step, if_neg haccepts]
    simp only [learn, hscored, margin_inPhase, hmargin, h, Except.mapError]
    rfl
  | undecided hjudged h =>
    rw [hjudged.step_eq, settle, h]
    rfl
  | noUpdate hjudged h =>
    rw [hjudged.step_eq, settle, h]
    rfl
  | unsized hjudged hpos h =>
    rw [hjudged.step_eq, settle, hpos]
    simp only [update, hsize]
    rcases h with h | ⟨eta, coeff, h, hfinite⟩
    · rw [h]
      rfl
    · rw [h]
      simp only [ok_bind, hfinite]
      rfl
  | skipped hsized h =>
    rw [hsized.step_eq, settle, hsized.positive]
    simp only [update, hsize, hsized.size_eq, ok_bind, h]
    rfl
  | @stuck seen epsilon loss eta coeff weights f hsized hfinite h =>
    have hmove : moveAlong (s.evaluating target).weights coeff x = (weights, .error f) := h
    rw [hsized.step_eq, settle, hsized.positive]
    simp only [update, hsize, hsized.size_eq, ok_bind, hfinite, hmove]
    rfl
  | @updated seen epsilon loss eta coeff weights hsized hfinite h =>
    have hmove : moveAlong (s.evaluating target).weights coeff x = (weights, .ok ()) := h
    rw [hsized.step_eq, settle, hsized.positive]
    simp only [update, hsize, hsized.size_eq, ok_bind, hfinite, hmove]
    rfl

/-- Without a spread, a step of an idle session changes the weights and the counters only. -/
theorem step_of_fixed {s : Session ι α} (hs : s.spread = none) (hidle : s.phase = .idle)
    (x : Features ι α) (target : α) :
    (s.step x target).1 =
      { s with
        weights := (s.step x target).1.weights
        counters := (s.step x target).1.counters } := by
  obtain ⟨settings, aggressiveness, weights, spread, phase, counters⟩ := s
  obtain rfl : spread = none := hs
  obtain rfl : phase = .idle := hidle
  have hsteps := stepsTo_step (⟨settings, aggressiveness, weights, none, .idle, counters⟩ :
    Session ι α) x target
  generalize step _ x target = result at hsteps
  obtain ⟨s', r⟩ := result
  cases hsteps <;> rfl

end Session

/-! ## Counters -/

instance : Add Counters where
  add a b := ⟨a.processed + b.processed, a.updated + b.updated, a.noUpdate + b.noUpdate,
    a.skipped + b.skipped⟩

attribute [ext] Counters

namespace Counters

variable (a b : Counters)

@[simp] theorem processed_add : (a + b).processed = a.processed + b.processed := rfl

@[simp] theorem updated_add : (a + b).updated = a.updated + b.updated := rfl

@[simp] theorem noUpdate_add : (a + b).noUpdate = a.noUpdate + b.noUpdate := rfl

@[simp] theorem skipped_add : (a + b).skipped = a.skipped + b.skipped := rfl

end Counters

/-! ## Models that cannot be told apart -/

variable {ι κ α : Type} [Key ι] [Key κ] [Arithmetic α]

/-- The two features cannot be told apart by models in the relation. -/
structure Feature.Matches (R : WeightMap ι α → WeightMap κ α → Prop) (f : Feature ι α)
    (g : Feature κ α) : Prop where
  value : f.value = g.value
  get : ∀ {m n}, R m n → m.get f.id = n.get g.id
  insert : ∀ {m n} (w : α), R m n → R (m.insert f.id w) (n.insert g.id w)

theorem matches_self (x : Features ι α) :
    List.Forall₂ (Feature.Matches (Eq : WeightMap ι α → WeightMap ι α → Prop)) x x :=
  List.forall₂_same.2 fun _ _ => ⟨rfl, fun h => by rw [h], fun _ h => by rw [h]⟩

variable {R : WeightMap ι α → WeightMap κ α → Prop} {f : Feature ι α} {g : Feature κ α}
  {x : Features ι α} {y : Features κ α} {m : WeightMap ι α} {n : WeightMap κ α}

namespace WeightMap

theorem addFeature_matches (hfg : f.Matches R g) (hmn : R m n) (acc : Margin α) :
    m.addFeature acc f = n.addFeature acc g := by
  unfold addFeature addToScore addToNorm
  rw [hfg.value, hfg.get hmn]

theorem scoreAndNorm_matches (hxy : List.Forall₂ (Feature.Matches R) x y) (hmn : R m n) :
    m.scoreAndNorm x = n.scoreAndNorm y := by
  rw [scoreAndNorm_eq_foldlM, scoreAndNorm_eq_foldlM]
  generalize (⟨Arithmetic.zero, Arithmetic.zero⟩ : Margin α) = acc
  induction hxy generalizing acc with
  | nil => rfl
  | cons hfg _ ih =>
    rw [List.foldlM_cons, List.foldlM_cons, addFeature_matches hfg hmn]
    exact bind_congr ih

theorem add_matches (hfg : f.Matches R g) (hmn : R m n) (delta : α) :
    (∃ fault, m.add f.id delta = .error fault ∧ n.add g.id delta = .error fault) ∨
      ∃ m' n', m.add f.id delta = .ok m' ∧ n.add g.id delta = .ok n' ∧ R m' n' := by
  unfold add
  rw [hfg.get hmn]
  cases n.get g.id with
  | error fault => exact .inl ⟨fault, rfl, rfl⟩
  | ok w =>
    simp only [ok_bind]
    cases Arithmetic.add w delta with
    | error fault => exact .inl ⟨fault, rfl, rfl⟩
    | ok sum => exact .inr ⟨_, _, rfl, rfl, hfg.insert sum hmn⟩

end WeightMap

namespace Session

/-- Both models are moved equally far along matching examples. -/
theorem moveAlong_matches (hxy : List.Forall₂ (Feature.Matches R) x y) (hmn : R m n) (coeff : α) :
    R (moveAlong m coeff x).1 (moveAlong n coeff y).1 ∧
      (moveAlong m coeff x).2 = (moveAlong n coeff y).2 := by
  induction hxy generalizing m n with
  | nil => exact ⟨hmn, rfl⟩
  | @cons f g _ _ hfg _ ih =>
    rw [moveAlong, moveAlong, hfg.value]
    cases Arithmetic.mul coeff g.value with
    | error fault => exact ⟨hmn, rfl⟩
    | ok delta =>
      rcases WeightMap.add_matches hfg hmn delta with ⟨fault, hm, hn⟩ | ⟨m', n', hm, hn, hmn'⟩
      · simp only [ok_bind, hm, hn]
        exact ⟨hmn, trivial⟩
      · simp only [ok_bind, hm, hn]
        exact ih hmn'

/-! ## Up to the step size -/

/-- Two sessions that find the same in an example: their models are in the relation, and they have
the same margin. -/
structure Abreast (R : WeightMap ι α → WeightMap κ α → Prop) (s : Session ι α) (t : Session κ α) :
    Prop where
  epsilon : s.settings.epsilon = t.settings.epsilon
  spread : s.spread = t.spread
  phase : s.phase = t.phase
  weights : R s.weights t.weights

variable {s : Session ι α} {t : Session κ α} {target : α} {seen : Margin α}
  {epsilon loss eta coeff : α}

omit [Key ι] [Key κ] in
theorem Abreast.margin_eq (h : Abreast R s t) (target : α) :
    (s.margin target).2 = (t.margin target).2 := by
  unfold margin
  rw [h.epsilon, h.spread]
  cases t.spread <;> rfl

theorem Abreast.judged (h : Abreast R s t) (hxy : List.Forall₂ (Feature.Matches R) x y)
    (hjudged : Judged s x target seen epsilon loss) : Judged t y target seen epsilon loss where
  accepts := h.phase ▸ hjudged.accepts
  scored := WeightMap.scoreAndNorm_matches hxy h.weights ▸ hjudged.scored
  margin_eq := h.margin_eq target ▸ hjudged.margin_eq
  loss_eq := hjudged.loss_eq

omit [Key ι] [Key κ] in
theorem Abreast.measuring (h : Abreast R s t) (target : α) :
    Abreast R (s.measuring target) (t.measuring target) :=
  ⟨h.epsilon, congrArg (Option.map fun tracker => (Spread.observe tracker target).1) h.spread,
    rfl, h.weights⟩

/-- **A step of both sessions, up to the step size**: matching examples come to the same and the
same is counted, or both have the same positive loss. -/
theorem Abreast.step_or (h : Abreast R s t) (hxy : List.Forall₂ (Feature.Matches R) x y)
    (target : α) :
    ((s.step x target).2 = (t.step y target).2 ∧
      Abreast R (s.step x target).1 (t.step y target).1 ∧
      ∃ counted, (s.step x target).1.counters = s.counters + counted ∧
        (t.step y target).1.counters = t.counters + counted) ∨
    ∃ seen epsilon loss, Judged s x target seen epsilon loss ∧
      Judged t y target seen epsilon loss ∧ Arithmetic.isPositive loss = .ok true := by
  suffices hend : ∀ {s' r}, StepsTo s x target s' r →
      (∃ t', StepsTo t y target t' r ∧ Abreast R s' t' ∧
        ∃ counted, s'.counters = s.counters + counted ∧ t'.counters = t.counters + counted) ∨
      ∃ seen epsilon loss, Judged s x target seen epsilon loss ∧
        Judged t y target seen epsilon loss ∧ Arithmetic.isPositive loss = .ok true by
    refine (hend (stepsTo_step s x target)).imp_left ?_
    rintro ⟨t', ht, habreast, hcounters⟩
    rw [ht.step_eq]
    exact ⟨rfl, habreast, hcounters⟩
  have hmeasured := h.measuring target
  have hscore := WeightMap.scoreAndNorm_matches hxy h.weights
  have hmargin := h.margin_eq target
  intro s' r hs
  cases hs with
  | finalized hphase => exact .inl ⟨t, .finalized (h.phase ▸ hphase), h, .none, rfl, rfl⟩
  | unscored haccepts hfault =>
    exact .inl ⟨_, .unscored (h.phase ▸ haccepts) (hscore ▸ hfault), { h with phase := rfl }, .none,
      rfl, rfl⟩
  | unmeasured haccepts hscored hfault =>
    exact .inl ⟨_, .unmeasured (h.phase ▸ haccepts) (hscore ▸ hscored) (hmargin ▸ hfault),
      hmeasured, .none, rfl, rfl⟩
  | unjudged haccepts hscored hmargin' hfault =>
    exact .inl ⟨_, .unjudged (h.phase ▸ haccepts) (hscore ▸ hscored) (hmargin ▸ hmargin') hfault,
      hmeasured, .none, rfl, rfl⟩
  | undecided hjudged hfault =>
    exact .inl ⟨_, .undecided (h.judged hxy hjudged) hfault, { hmeasured with }, ⟨1, 0, 0, 0⟩, rfl,
      rfl⟩
  | noUpdate hjudged hpos =>
    exact .inl ⟨_, .noUpdate (h.judged hxy hjudged) hpos, { hmeasured with },
      Counters.none.noting .noUpdate, rfl, rfl⟩
  | unsized hjudged hpos =>
    exact .inr ⟨_, _, _, hjudged, h.judged hxy hjudged, hpos⟩
  | skipped hsized | stuck hsized | updated hsized =>
    exact .inr ⟨_, _, _, hsized.toJudged, h.judged hxy hsized.toJudged, hsized.positive⟩

/-! ## Sessions that cannot be told apart -/

/-- Two sessions whose models are in the relation and that are otherwise the same, the counters
apart. -/
structure Alike (R : WeightMap ι α → WeightMap κ α → Prop) (s : Session ι α) (t : Session κ α) :
    Prop where
  settings : s.settings = t.settings
  aggressiveness : s.aggressiveness = t.aggressiveness
  spread : s.spread = t.spread
  phase : s.phase = t.phase
  weights : R s.weights t.weights

omit [Key ι] [Key κ] [Arithmetic α] in
theorem Alike.abreast (h : Alike R s t) : Abreast R s t :=
  { h with epsilon := congrArg Settings.epsilon h.settings }

omit [Key ι] [Key κ] in
theorem Alike.stepSize_eq (h : Alike R s t) (seen : Margin α) (target loss : α) :
    s.stepSize seen target loss = t.stepSize seen target loss := by
  unfold stepSize
  rw [h.settings, h.aggressiveness]

/-- **A step of both sessions**: matching examples come to the same, the sessions remain alike, and
the same is counted in both. -/
theorem Alike.step (h : Alike R s t) (hxy : List.Forall₂ (Feature.Matches R) x y) (target : α) :
    (s.step x target).2 = (t.step y target).2 ∧
      Alike R (s.step x target).1 (t.step y target).1 ∧
      ∃ counted, (s.step x target).1.counters = s.counters + counted ∧
        (t.step y target).1.counters = t.counters + counted := by
  rcases h.abreast.step_or hxy target with
    ⟨hresult, habreast, hcounters⟩ | ⟨seen, epsilon, loss, hs, ht, hpos⟩
  · obtain ⟨hsettings, haggressive⟩ := settings_step s x target
    obtain ⟨hsettings', haggressive'⟩ := settings_step t y target
    refine ⟨hresult, { habreast with settings := ?_, aggressiveness := ?_ }, hcounters⟩
    · rw [hsettings, hsettings', h.settings]
    · rw [haggressive, haggressive', h.aggressiveness]
  have hmeasured : Alike R (s.measuring target) (t.measuring target) :=
    { h.abreast.measuring target with
      settings := h.settings
      aggressiveness := h.aggressiveness }
  have hsame := h.stepSize_eq seen target loss
  cases hsize : s.stepSize seen target loss with
  | error f =>
    rw [(StepsTo.unsized hs hpos (.inl hsize)).step_eq,
      (StepsTo.unsized ht hpos (.inl (hsame ▸ hsize))).step_eq]
    exact ⟨rfl, { hmeasured with }, ⟨1, 0, 0, 0⟩, rfl, rfl⟩
  | ok sized =>
    obtain ⟨eta, coeff⟩ := sized
    have hsized : Sized s x target seen epsilon loss eta coeff := ⟨hs, hpos, hsize⟩
    have hsized' : Sized t y target seen epsilon loss eta coeff := ⟨ht, hpos, hsame ▸ hsize⟩
    obtain ⟨hweights, hmoved⟩ := moveAlong_matches hxy h.weights coeff
    rcases hfinite : Arithmetic.isFinite coeff with f | ⟨⟨⟩⟩
    · rw [(StepsTo.unsized hs hpos (.inr ⟨_, _, hsize, hfinite⟩)).step_eq,
        (StepsTo.unsized ht hpos (.inr ⟨_, _, hsame ▸ hsize, hfinite⟩)).step_eq]
      exact ⟨rfl, { hmeasured with }, ⟨1, 0, 0, 0⟩, rfl, rfl⟩
    · rw [(StepsTo.skipped hsized hfinite).step_eq, (StepsTo.skipped hsized' hfinite).step_eq]
      exact ⟨rfl, { hmeasured with }, Counters.none.noting .skipped, rfl, rfl⟩
    · rcases hmove : moveAlong s.weights coeff x with ⟨weights, f | ⟨⟩⟩
      · rw [hmove] at hweights hmoved
        rw [(StepsTo.stuck hsized hfinite hmove).step_eq,
          (StepsTo.stuck hsized' hfinite (Prod.ext rfl hmoved.symm)).step_eq]
        exact ⟨rfl, { hmeasured with weights := hweights }, ⟨1, 0, 0, 0⟩, rfl, rfl⟩
      · rw [hmove] at hweights hmoved
        rw [(StepsTo.updated hsized hfinite hmove).step_eq,
          (StepsTo.updated hsized' hfinite (Prod.ext rfl hmoved.symm)).step_eq]
        exact ⟨rfl, { hmeasured with weights := hweights }, Counters.none.noting .updated, rfl, rfl⟩

end Session
end PassiveAggressive

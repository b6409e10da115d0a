import PassiveAggressive.Learner.Session

/-!
# What one step can do

`Session.step` runs through scoring, the margin, the loss, the step size and the move
of the weights, and may be stopped in each of them.  `StepsTo` lists the ways it can
end, with the session that is left in each: it is the only place where the step is
taken apart (`stepsTo_step`), and every statement about a step goes through its cases.

The phases in between are not to be seen in that list.  `phase_learn` says in which of
them an example would leave its session; but a step, however it ends, makes the session
idle again (`phase_step`).

Three of the faults come after the example has been counted as processed: where the
loss cannot be compared with zero, where the step has no size, and where the weights
are stuck half way.  They are cases here because arithmetic may be anything; over the
scalars the library computes with none of them occurs, which is a theorem about
scalars and not about the step.
-/

namespace PassiveAggressive

/-- The counters after one more example that came to the given status. -/
def Counters.noting (c : Counters) : Status → Counters
  | .updated => { c with processed := c.processed + 1, updated := c.updated + 1 }
  | .noUpdate => { c with processed := c.processed + 1, noUpdate := c.noUpdate + 1 }
  | .skipped => { c with processed := c.processed + 1, skipped := c.skipped + 1 }

namespace Session

variable {ι α : Type} [Key ι] [Arithmetic α]

/-- The spread after the target has been taken into it, as far as that goes. -/
def spreadAfter (s : Session ι α) (target : α) : Option (Spread α) :=
  s.spread.map fun t => (t.observe target).1

/-- The session after the target has been taken into its spread, ready for the next example. -/
def measuring (s : Session ι α) (target : α) : Session ι α :=
  { s with spread := s.spreadAfter target, phase := .idle }

omit [Key ι] in
/-- Taking a target in changes the spread and nothing else, and does not look at the phase. -/
theorem margin_inPhase (s : Session ι α) (phase : Phase) (target : α) :
    ({ s with phase } : Session ι α).margin target =
      ({ s with spread := s.spreadAfter target, phase }, (s.margin target).2) := by
  obtain ⟨settings, aggressiveness, weights, spread, _, counters⟩ := s
  cases spread <;> rfl

/-- The example has been scored and its loss is known. -/
structure Judged (s : Session ι α) (x : Features ι α) (target : α) (seen : Margin α)
    (epsilon loss : α) : Prop where
  accepts : s.phase ≠ .finalized
  scored : s.weights.scoreAndNorm x = .ok seen
  margin_eq : (s.margin target).2 = .ok epsilon
  loss_eq : insensitiveLoss seen.score target epsilon = .ok loss

/-- The example has a positive loss and a step size for it. -/
structure Sized (s : Session ι α) (x : Features ι α) (target : α) (seen : Margin α)
    (epsilon loss eta coeff : α) : Prop extends Judged s x target seen epsilon loss where
  positive : Arithmetic.isPositive loss = .ok true
  size_eq : s.stepSize seen target loss = .ok (eta, coeff)

/-- **The ways a step can end**, each with the session it leaves and what it reports. -/
inductive StepsTo (s : Session ι α) (x : Features ι α) (target : α) :
    Session ι α → Except StepError (Outcome α) → Prop where
  /-- The session accepts no examples. -/
  | finalized (h : s.phase = .finalized) : StepsTo s x target s (.error .finalized)
  /-- The example cannot be scored. -/
  | unscored {f : Fault} (haccepts : s.phase ≠ .finalized)
    (h : s.weights.scoreAndNorm x = .error f) :
    StepsTo s x target { s with phase := .idle } (.error (.fault f))
  /-- There is no margin: the target cannot be taken in, or the spread has no deviation. -/
  | unmeasured {seen : Margin α} {f : Fault} (haccepts : s.phase ≠ .finalized)
    (hscored : s.weights.scoreAndNorm x = .ok seen) (h : (s.margin target).2 = .error f) :
    StepsTo s x target (s.measuring target) (.error (.fault f))
  /-- The prediction cannot be compared with the target. -/
  | unjudged {seen : Margin α} {epsilon : α} {f : Fault} (haccepts : s.phase ≠ .finalized)
    (hscored : s.weights.scoreAndNorm x = .ok seen) (hmargin : (s.margin target).2 = .ok epsilon)
    (h : insensitiveLoss seen.score target epsilon = .error f) :
    StepsTo s x target (s.measuring target) (.error (.fault f))
  /-- The loss cannot be compared with zero. -/
  | undecided {seen : Margin α} {epsilon loss : α} {f : Fault}
    (hjudged : Judged s x target seen epsilon loss) (h : Arithmetic.isPositive loss = .error f) :
    StepsTo s x target
      { s.measuring target with
        counters := { s.counters with processed := s.counters.processed + 1 } }
      (.error (.fault f))
  /-- The loss is not positive. -/
  | noUpdate {seen : Margin α} {epsilon loss : α} (hjudged : Judged s x target seen epsilon loss)
    (h : Arithmetic.isPositive loss = .ok false) :
    StepsTo s x target { s.measuring target with counters := s.counters.noting .noUpdate }
      (.ok ⟨.noUpdate, seen.score, seen.squaredNorm, loss, epsilon, Arithmetic.zero,
        Arithmetic.zero⟩)
  /-- The step has no size, or one of which it cannot be told whether it is finite. -/
  | unsized {seen : Margin α} {epsilon loss : α} {f : Fault}
    (hjudged : Judged s x target seen epsilon loss) (hpos : Arithmetic.isPositive loss = .ok true)
    (h : s.stepSize seen target loss = .error f ∨
      ∃ eta coeff, s.stepSize seen target loss = .ok (eta, coeff) ∧
        Arithmetic.isFinite coeff = .error f) :
    StepsTo s x target
      { s.measuring target with
        counters := { s.counters with processed := s.counters.processed + 1 } }
      (.error (.fault f))
  /-- The step is not finite. -/
  | skipped {seen : Margin α} {epsilon loss eta coeff : α}
    (hsized : Sized s x target seen epsilon loss eta coeff)
    (h : Arithmetic.isFinite coeff = .ok false) :
    StepsTo s x target { s.measuring target with counters := s.counters.noting .skipped }
      (.ok ⟨.skipped, seen.score, seen.squaredNorm, loss, epsilon, eta, coeff⟩)
  /-- The weights are stuck half way. -/
  | stuck {seen : Margin α} {epsilon loss eta coeff : α} {weights : WeightMap ι α} {f : Fault}
    (hsized : Sized s x target seen epsilon loss eta coeff)
    (hfinite : Arithmetic.isFinite coeff = .ok true)
    (h : moveAlong s.weights coeff x = (weights, .error f)) :
    StepsTo s x target
      { s.measuring target with
        weights
        counters := { s.counters with processed := s.counters.processed + 1 } }
      (.error (.fault f))
  /-- The weights are moved. -/
  | updated {seen : Margin α} {epsilon loss eta coeff : α} {weights : WeightMap ι α}
    (hsized : Sized s x target seen epsilon loss eta coeff)
    (hfinite : Arithmetic.isFinite coeff = .ok true)
    (h : moveAlong s.weights coeff x = (weights, .ok ())) :
    StepsTo s x target
      { s.measuring target with weights, counters := s.counters.noting .updated }
      (.ok ⟨.updated, seen.score, seen.squaredNorm, loss, epsilon, eta, coeff⟩)

/-- The session in the evaluation of an example whose target has been taken in. -/
def evaluating (s : Session ι α) (target : α) : Session ι α :=
  { s with spread := s.spreadAfter target, phase := .evaluating }

/-- The part of the step that follows the loss. -/
theorem stepsTo_settle {s : Session ι α} {x : Features ι α} {target : α} {seen : Margin α}
    {epsilon loss : α} (hjudged : Judged s x target seen epsilon loss) :
    StepsTo s x target
      { ((s.evaluating target).settle x seen target loss epsilon).1 with phase := .idle }
      (((s.evaluating target).settle x seen target loss epsilon).2.mapError .fault) := by
  unfold settle
  cases hpos : Arithmetic.isPositive loss with
  | error f => exact .undecided hjudged hpos
  | ok positive =>
    cases positive with
    | false => exact .noUpdate hjudged hpos
    | true =>
      simp only [update]
      -- a step size is computed from the settings alone, which counting does not touch
      have hsize : ∀ c : Counters,
          ({ s.evaluating target with phase := .updating, counters := c } :
            Session ι α).stepSize seen target loss = s.stepSize seen target loss := fun _ => rfl
      rw [hsize]
      cases hs : s.stepSize seen target loss with
      | error f => exact .unsized hjudged hpos (.inl hs)
      | ok sized =>
        obtain ⟨eta, coeff⟩ := sized
        have hsized : Sized s x target seen epsilon loss eta coeff := ⟨hjudged, hpos, hs⟩
        cases hfinite : Arithmetic.isFinite coeff with
        | error f =>
          simp only [bind, Except.bind, hfinite]
          exact .unsized hjudged hpos (.inr ⟨eta, coeff, hs, hfinite⟩)
        | ok finite =>
          simp only [bind, Except.bind, hfinite]
          cases finite with
          | false => exact .skipped hsized hfinite
          | true =>
            rcases hmove : moveAlong s.weights coeff x with ⟨weights, f | ⟨⟩⟩
            · have hmove' : moveAlong (s.evaluating target).weights coeff x =
                  (weights, .error f) := hmove
              simp only [hmove', ↓reduceIte]
              exact .stuck hsized hfinite hmove
            · have hmove' : moveAlong (s.evaluating target).weights coeff x =
                  (weights, .ok ()) := hmove
              simp only [hmove', ↓reduceIte]
              exact .updated hsized hfinite hmove

/-- **A step ends in one of the listed ways.** -/
theorem stepsTo_step (s : Session ι α) (x : Features ι α) (target : α) :
    StepsTo s x target (s.step x target).1 (s.step x target).2 := by
  unfold step
  by_cases hphase : s.phase = .finalized
  · rw [if_pos hphase]
    exact .finalized hphase
  rw [if_neg hphase]
  simp only [learn]
  cases hscored : s.weights.scoreAndNorm x with
  | error f => exact .unscored hphase hscored
  | ok seen =>
    simp only [margin_inPhase]
    cases hmargin : (s.margin target).2 with
    | error f => exact .unmeasured hphase hscored hmargin
    | ok epsilon =>
      simp only
      cases hloss : insensitiveLoss seen.score target epsilon with
      | error f => exact .unjudged hphase hscored hmargin hloss
      | ok loss => exact stepsTo_settle ⟨hphase, hscored, hmargin, hloss⟩

theorem phase_update (s : Session ι α) (x : Features ι α) (seen : Margin α)
    (target loss epsilon : α) : (s.update x seen target loss epsilon).1.phase = .updating := by
  unfold update
  simp only
  split
  · rfl
  · split
    · split <;> rfl
    · rfl

/-- **How far an example gets**, by the phase in which it leaves the session before the step is
over: scoring if it cannot be scored, evaluating if there is no margin or no loss, and else where
its loss leads. -/
theorem phase_learn (s : Session ι α) (x : Features ι α) (target : α) :
    (s.learn x target).1.phase =
      match s.weights.scoreAndNorm x with
      | .error _ => .scoring
      | .ok seen =>
        match (s.margin target).2 >>= insensitiveLoss seen.score target >>=
            Arithmetic.isPositive with
        | .error _ => .evaluating
        | .ok true => .updating
        | .ok false => .noUpdate := by
  simp only [learn]
  cases s.weights.scoreAndNorm x with
  | error f => rfl
  | ok seen =>
    simp only [margin_inPhase]
    cases (s.margin target).2 with
    | error f => rfl
    | ok epsilon =>
      simp only [bind, Except.bind]
      cases insensitiveLoss seen.score target epsilon with
      | error f => rfl
      | ok loss =>
        simp only [settle]
        cases Arithmetic.isPositive loss with
        | error f => rfl
        | ok positive =>
          cases positive with
          | true => exact phase_update _ x seen target loss epsilon
          | false => rfl

/-- **However a step ends, the session is idle again**, unless it was finalized before. -/
theorem phase_step {s : Session ι α} (haccepts : s.phase ≠ .finalized) (x : Features ι α)
    (target : α) : (s.step x target).1.phase = .idle := by
  have hsteps := stepsTo_step s x target
  generalize s.step x target = result at hsteps
  obtain ⟨s', r⟩ := result
  cases hsteps with
  | finalized h => exact absurd h haccepts
  | _ => rfl

omit [Key ι] [Arithmetic α] in
theorem accepts_of_idle {s : Session ι α} (hidle : s.phase = .idle) : s.phase ≠ .finalized := by
  simp [hidle]

theorem accepts_step {s : Session ι α} (haccepts : s.phase ≠ .finalized) (x : Features ι α)
    (target : α) : (s.step x target).1.phase ≠ .finalized :=
  accepts_of_idle (phase_step haccepts x target)

theorem idle_step {s : Session ι α} (hidle : s.phase = .idle) (x : Features ι α) (target : α) :
    (s.step x target).1.phase = .idle :=
  phase_step (accepts_of_idle hidle) x target

theorem phase_step_eq_finalized_iff (s : Session ι α) (x : Features ι α) (target : α) :
    (s.step x target).1.phase = .finalized ↔ s.phase = .finalized := by
  by_cases hphase : s.phase = .finalized
  · rw [step_of_finalized hphase]
  · rw [phase_step hphase]
    exact iff_of_false (by simp) hphase

theorem judged_of_ok {s : Session ι α} {x : Features ι α} {target : α} {o : Outcome α}
    (h : (s.step x target).2 = .ok o) :
    ∃ seen, Judged s x target seen o.epsilon o.loss := by
  have hsteps := stepsTo_step s x target
  rw [h] at hsteps
  generalize (s.step x target).1 = s' at hsteps
  cases hsteps with
  | noUpdate hjudged => exact ⟨_, hjudged⟩
  | skipped hsized => exact ⟨_, hsized.toJudged⟩
  | updated hsized => exact ⟨_, hsized.toJudged⟩

theorem sized_of_updated {s : Session ι α} {x : Features ι α} {target : α} {outcome : Outcome α}
    (h : (s.step x target).2 = .ok outcome) (hstatus : outcome.status = .updated) :
    ∃ seen, Sized s x target seen outcome.epsilon outcome.loss outcome.eta outcome.coeff ∧
      Arithmetic.isFinite outcome.coeff = .ok true := by
  have hsteps := stepsTo_step s x target
  rw [h] at hsteps
  generalize (s.step x target).1 = s' at hsteps
  cases hsteps with
  | noUpdate | skipped => cases hstatus
  | updated hsized hfinite hmove => exact ⟨_, hsized, hfinite⟩

theorem settings_step (s : Session ι α) (x : Features ι α) (target : α) :
    (s.step x target).1.settings = s.settings ∧
      (s.step x target).1.aggressiveness = s.aggressiveness := by
  have hsteps := stepsTo_step s x target
  generalize s.step x target = result at hsteps
  obtain ⟨s', r⟩ := result
  cases hsteps <;> exact ⟨rfl, rfl⟩

/-- The target of an example that has been scored is taken in, whatever comes of it then. -/
theorem spread_step {s : Session ι α} {x : Features ι α} {target : α} {seen : Margin α}
    (haccepts : s.phase ≠ .finalized) (hscored : s.weights.scoreAndNorm x = .ok seen) :
    (s.step x target).1.spread = s.spreadAfter target := by
  have hsteps := stepsTo_step s x target
  generalize s.step x target = result at hsteps
  obtain ⟨s', r⟩ := result
  cases hsteps with
  | finalized h => exact absurd h haccepts
  | unscored _ h =>
    rw [hscored] at h
    cases h
  | _ => rfl

/-- A session that accepts examples does not refuse one. -/
theorem exists_fault_of_accepts {s : Session ι α} (haccepts : s.phase ≠ .finalized)
    {x : Features ι α} {target : α} {e : StepError} (h : (s.step x target).2 = .error e) : ∃ f, e = .fault f := by
  cases e with
  | fault f => exact ⟨f, rfl⟩
  | finalized =>
    have hsteps := stepsTo_step s x target
    rw [h] at hsteps
    generalize (s.step x target).1 = s' at hsteps
    cases hsteps with
    | finalized hphase => exact absurd hphase haccepts

end Session
end PassiveAggressive

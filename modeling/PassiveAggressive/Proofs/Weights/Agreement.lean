import PassiveAggressive.Proofs.Session.Failure

/-!
# The two scores agree

An example is scored by two loops.  A prediction adds up the score alone; a training step adds
up the sum of the squared values beside it.  The second loop can fail where the first does
not: a whole number far below the limit has a square beyond it.  It can also fail earlier,
in another way, than the first.

`scoreAndNorm_eq_ok_iff` takes the second loop apart into the score and the squared norm, each
added up by itself, and everything else follows from it: a score that is reported beside a
norm is the one that is predicted, and where there is no prediction there is no step.

## In place

A model is changed in place by training, and scoring goes through it reading one weight after
the other, in the middle of other work.  `InPlace` is work on a model that may fault and that
leaves the model as far as it has come.  What it means that scoring only reads is `Reads`: the
work comes to what a function of the model says and leaves the model as it is, also when it
faults half way.  Both loops are put together from single readings, so both only read
(`InPlace.reads_score`, `InPlace.reads_scoreAndNorm`).
-/

namespace PassiveAggressive

variable {ι α : Type} [Key ι] [Arithmetic α]

namespace WeightMap

variable {m : WeightMap ι α} {x : Features ι α}

/-- The sum of the squared values of an example, by itself. -/
def norm (x : Features ι α) : Except Fault α := x.foldlM addToNorm Arithmetic.zero

/-- **The score with the norm is the score and the norm.**  It is computed exactly if both are. -/
theorem scoreAndNorm_eq_ok_iff {seen : Margin α} :
    m.scoreAndNorm x = .ok seen ↔ m.score x = .ok seen.score ∧ norm x = .ok seen.squaredNorm := by
  -- both sums may have been begun
  suffices h : ∀ acc : Margin α, x.foldlM m.addFeature acc = .ok seen ↔
      x.foldlM m.addToScore acc.score = .ok seen.score ∧
        x.foldlM addToNorm acc.squaredNorm = .ok seen.squaredNorm from h ⟨_, _⟩
  induction x with
  | nil =>
    obtain ⟨score, squaredNorm⟩ := seen
    rintro ⟨score', squaredNorm'⟩
    simp [pure, Except.pure]
  | cons f fs ih =>
    intro acc
    simp only [List.foldlM_cons, bind_eq_ok_iff, addFeature, ih]
    constructor
    · rintro ⟨acc', ⟨score, hscore, square, hsquare, hacc⟩, hscores, hnorms⟩
      cases hacc
      exact ⟨⟨score, hscore, hscores⟩, ⟨square, hsquare, hnorms⟩⟩
    · rintro ⟨⟨score, hscore, hscores⟩, ⟨square, hsquare, hnorms⟩⟩
      exact ⟨⟨score, square⟩, ⟨score, hscore, square, hsquare, rfl⟩, hscores, hnorms⟩

theorem exists_fault_scoreAndNorm {f : Fault} (h : m.score x = .error f) :
    ∃ f', m.scoreAndNorm x = .error f' := by
  cases hboth : m.scoreAndNorm x with
  | error f' => exact ⟨f', rfl⟩
  | ok seen =>
    rw [(scoreAndNorm_eq_ok_iff.1 hboth).1] at h
    cases h

end WeightMap

/-! ## In place -/

/-- Work on a model in place: it may fault, and leaves the model as far as it has come. -/
abbrev InPlace (ι α : Type) : Type → Type := ExceptT Fault (StateM (WeightMap ι α))

namespace InPlace

open WeightMap

variable {β γ : Type}

/-- The result of the work on a model, and the model that it leaves. -/
def on (work : InPlace ι α β) (m : WeightMap ι α) : Except Fault β × WeightMap ι α := work.run.run m

/-- The work only reads: it comes to what `read` says of the model, and leaves the model as it is
even if it faults. -/
def Reads (work : InPlace ι α β) (read : WeightMap ι α → Except Fault β) : Prop :=
  ∀ m, work.on m = (read m, m)

/-- The weight of an id, read where it is filed. -/
def weight (id : ι) : InPlace ι α α := do
  let m ← get
  m.get id

/-- The score of an example, weight by weight. -/
def score (x : Features ι α) : InPlace ι α α :=
  x.foldlM
    (fun score f => do
      let w ← weight f.id
      let product ← Arithmetic.mul w f.value
      Arithmetic.add score product)
    Arithmetic.zero

/-- The score and the squared norm, feature by feature. -/
def scoreAndNorm (x : Features ι α) : InPlace ι α (Margin α) :=
  x.foldlM
    (fun acc f => do
      let w ← weight f.id
      let product ← Arithmetic.mul w f.value
      let score ← Arithmetic.add acc.score product
      let square ← Arithmetic.mul f.value f.value
      let squaredNorm ← Arithmetic.add acc.squaredNorm square
      pure ⟨score, squaredNorm⟩)
    ⟨Arithmetic.zero, Arithmetic.zero⟩

theorem reads_weight (id : ι) : Reads (α := α) (weight id) fun m => m.get id := fun _ => rfl

omit [Key ι] [Arithmetic α] in
theorem reads_lift (r : Except Fault β) : Reads (ι := ι) (α := α) (liftM r) fun _ => r :=
  fun _ => rfl

omit [Key ι] [Arithmetic α] in
/-- **Reading on after reading** is reading. -/
theorem Reads.bind {work : InPlace ι α β} {read : WeightMap ι α → Except Fault β}
    (hwork : Reads work read) {next : β → InPlace ι α γ}
    {readNext : β → WeightMap ι α → Except Fault γ} (hnext : ∀ b, Reads (next b) (readNext b)) :
    Reads (work >>= next) fun m => read m >>= fun b => readNext b m := by
  intro m
  change ExceptT.bindCont next (work.on m).1 (work.on m).2 = (read m >>= fun b => readNext b m, m)
  rw [hwork m]
  cases read m with
  | error f => rfl
  | ok b => exact hnext b m

omit [Key ι] [Arithmetic α] in
theorem reads_foldlM {step : γ → β → InPlace ι α γ}
    (readStep : WeightMap ι α → γ → β → Except Fault γ)
    (hstep : ∀ acc b, Reads (step acc b) fun m => readStep m acc b) (bs : List β) (acc : γ) :
    Reads (bs.foldlM step acc) fun m => bs.foldlM (readStep m) acc := by
  induction bs generalizing acc with
  | nil => exact fun _ => rfl
  | cons b bs ih =>
    simp only [List.foldlM_cons]
    exact (hstep acc b).bind ih

/-- **Scoring in place** comes to the score and leaves the model as it is. -/
theorem reads_score (x : Features ι α) : Reads (score x) fun m => m.score x :=
  reads_foldlM addToScore
    (fun sum f => (reads_weight f.id).bind fun w => (reads_lift (Arithmetic.mul w f.value)).bind
      fun product => reads_lift (Arithmetic.add sum product)) x _

/-- **So does scoring with the norm.** -/
theorem reads_scoreAndNorm (x : Features ι α) : Reads (scoreAndNorm x) fun m => m.scoreAndNorm x := by
  refine reads_foldlM addFeature (fun acc f => ?_) x _
  simp only [addFeature, addToScore, addToNorm, bind_assoc]
  exact (reads_weight f.id).bind fun w => (reads_lift (Arithmetic.mul w f.value)).bind fun product =>
    (reads_lift (Arithmetic.add acc.score product)).bind fun score =>
      (reads_lift (Arithmetic.mul f.value f.value)).bind fun square =>
        (reads_lift (Arithmetic.add acc.squaredNorm square)).bind fun squaredNorm =>
          reads_lift (.ok (Margin.mk score squaredNorm))

end InPlace

/-! ## What a step reports -/

namespace Session

theorem scored_of_ok {s : Session ι α} {x : Features ι α} {target : α} {o : Outcome α}
    (h : (s.step x target).2 = .ok o) :
    s.weights.scoreAndNorm x = .ok ⟨o.predicted, o.squaredNorm⟩ := by
  have hsteps := stepsTo_step s x target
  rw [h] at hsteps
  generalize (s.step x target).1 = s' at hsteps
  cases hsteps with
  | noUpdate hjudged => exact hjudged.scored
  | skipped hsized => exact hsized.scored
  | updated hsized => exact hsized.scored

end Session

namespace WeightMap

/-- **The two scores agree.**  Take any weights and any features.  If the score can be computed with
the norm it can be computed alone, and is the same; so what a step reports as predicted is what the
session predicts before it.  If the score cannot be computed alone it cannot be computed with the
norm either.  Neither computation, carried out in place, changes the weights, whether or not it
faults. -/
theorem scores_agree (m : WeightMap ι α) (x : Features ι α) :
    (∀ seen, m.scoreAndNorm x = .ok seen → m.score x = .ok seen.score) ∧
    (∀ s : Session ι α, ∀ target o, (s.step x target).2 = .ok o →
      s.predict x = .ok o.predicted) ∧
    (∀ f, m.score x = .error f → ∃ f', m.scoreAndNorm x = .error f') ∧
    (InPlace.score x).on m = (m.score x, m) ∧
    (InPlace.scoreAndNorm x).on m = (m.scoreAndNorm x, m) := by
  refine ⟨fun seen h => (scoreAndNorm_eq_ok_iff.1 h).1, fun s target o h => ?_,
    fun f h => exists_fault_scoreAndNorm h, InPlace.reads_score x m, InPlace.reads_scoreAndNorm x m⟩
  exact (scoreAndNorm_eq_ok_iff.1 (Session.scored_of_ok h)).1

/-- A session whose weights were added to directly, one of them in vain. -/
def adjusted : OpenSession :=
  (Session.untrained .pa1).after
    [.adjust (.int 1) (.int 2), .adjust (.list []) (.int 2), .adjust (.text "b") (.bool true)]

/-- An example that names an id in another spelling. -/
def respelt : OpenFeatures := [⟨.bool true, .int 3⟩, ⟨.text "c", .int 1⟩]

/-- The scores of this example agree, and an example with a text for a value has neither score. -/
theorem scores_agree_adjusted :
    (∃ seen, adjusted.weights.scoreAndNorm respelt = .ok seen ∧
      adjusted.weights.score respelt = .ok seen.score) ∧
    (∃ o, (adjusted.step respelt (.int 5)).2 = .ok o ∧
      adjusted.predict respelt = .ok o.predicted) ∧
    ∃ f f', adjusted.weights.score [⟨.int 1, .foreign .text⟩] = .error f ∧
      adjusted.weights.scoreAndNorm [⟨.int 1, .foreign .text⟩] = .error f' := by
  obtain ⟨seen, hseen, -⟩ : ∃ seen, adjusted.weights.scoreAndNorm respelt = .ok seen ∧ True := by
    decide +kernel
  obtain ⟨o, ho, -⟩ : ∃ o, (adjusted.step respelt (.int 5)).2 = .ok o ∧ True := by
    decide +kernel
  have hunsuited : adjusted.weights.score [⟨.int 1, .foreign .text⟩] =
      .error (.notRepeatable .float) := by
    decide +kernel
  obtain ⟨hscore, hpredict, -⟩ := scores_agree adjusted.weights respelt
  obtain ⟨-, -, hfault, -⟩ := scores_agree adjusted.weights [⟨.int 1, .foreign .text⟩]
  obtain ⟨f', hf'⟩ := hfault _ hunsuited
  exact ⟨⟨seen, hseen, hscore seen hseen⟩, ⟨o, ho, hpredict adjusted _ o ho⟩, _, f', hunsuited, hf'⟩

/-- A whole number that is not too large for a score, but whose square is too large for a norm. -/
example : (adjusted.weights.score [⟨.int 1, .int (10 ^ 200)⟩]).isOk = true ∧
    (adjusted.weights.scoreAndNorm [⟨.int 1, .int (10 ^ 200)⟩]).isOk = false := by
  decide +kernel

end WeightMap
end PassiveAggressive

import PassiveAggressive.Proofs.Double.Infinity
import PassiveAggressive.Proofs.Session.Replay
import PassiveAggressive.Proofs.Session.SideBySide

/-!
# Sessions with an infinite aggressiveness

Where the aggressiveness is infinite it makes no difference by which rule a session holds
its steps back.  Two such sessions, one by each rule, are fed the same stream: at every
example they come to the same fault or to outcomes that differ in step sizes that are not
finite, if at all, and their models, their spreads and their counters remain the same.

The sessions go through a step together until the step size is computed, and the rules
agree on it (`sizeIn_infinity`).  Either it is the same in both sessions, or both step
sizes are not finite and both steps are discarded.  Where the two are different numbers
they are never looked at again.

Nothing is said about the examples, which may hold any scalars, and little about the
system: not that it rounds correctly, nor that a number equals itself.
-/

namespace PassiveAggressive

open Scalar

/-! ## Outcomes up to step sizes that are not finite -/

section Reports

variable {α : Type} [Arithmetic α]

/-- The outcomes are the same, but for step sizes of which neither is finite. -/
structure Outcome.Agrees (a b : Outcome α) : Prop where
  status : a.status = b.status
  predicted : a.predicted = b.predicted
  squaredNorm : a.squaredNorm = b.squaredNorm
  loss : a.loss = b.loss
  epsilon : a.epsilon = b.epsilon
  eta : Arithmetic.isFinite a.eta = .ok true ∨ Arithmetic.isFinite b.eta = .ok true →
    a.eta = b.eta
  coeff : Arithmetic.isFinite a.coeff = .ok true ∨ Arithmetic.isFinite b.coeff = .ok true →
    a.coeff = b.coeff

theorem Outcome.Agrees.refl (a : Outcome α) : a.Agrees a :=
  ⟨rfl, rfl, rfl, rfl, rfl, fun _ => rfl, fun _ => rfl⟩

/-- Steps that come to the same fault, or to outcomes that agree. -/
inductive SameReport :
    Except StepError (Outcome α) → Except StepError (Outcome α) → Prop where
  | outcome {a b : Outcome α} (h : a.Agrees b) : SameReport (.ok a) (.ok b)
  | fault (e : StepError) : SameReport (.error e) (.error e)

theorem SameReport.refl (r : Except StepError (Outcome α)) : SameReport r r := by
  cases r with
  | error e => exact .fault e
  | ok a => exact .outcome (.refl a)

end Reports

variable {ι F : Type} [NumberSystem F]

theorem SameIfFinite.real_eq {x y : F} (h : SameIfFinite x y)
    (hfinite : Arithmetic.isFinite (Scalar.real x) = .ok true ∨
      Arithmetic.isFinite (Scalar.real y) = .ok true) : Scalar.real x = .real y := by
  rw [isFinite_real, isFinite_real] at hfinite
  rcases h with rfl | ⟨hx, hy⟩
  · rfl
  · rw [hx, hy] at hfinite
    rcases hfinite with hfinite | hfinite <;> cases hfinite

namespace Session

/-- The numbers of the session are numbers of the system, and its aggressiveness is infinite. -/
structure Uncapped (s : Session ι (Scalar F)) : Prop where
  inSystem : s.InSystem
  infinite : s.aggressiveness = .real NumberSystem.infinity

variable [Key ι] {s t : Session ι (Scalar F)} {x : Features ι (Scalar F)} {target : Scalar F}
  {seen : Margin (Scalar F)} {epsilon loss : Scalar F}

/-- A step does not cap what is not capped. -/
theorem Uncapped.step (hs : s.Uncapped) (x : Features ι (Scalar F)) (target : Scalar F) :
    (s.step x target).1.Uncapped :=
  ⟨(hs.inSystem.step x target).1, (settings_step s x target).2.trans hs.infinite⟩

variable [LawfulNumberSystem F] [LawfulInfinity F] [LawfulSquares F]

/-- Both sessions have a step size for a loss, and the two agree. -/
theorem Uncapped.exists_stepSizes (hs : s.Uncapped) (ht : t.Uncapped)
    (h : Judged s x target seen epsilon loss) :
    ∃ eta coeff eta' coeff' : F,
      s.stepSize seen target loss = .ok (.real eta, .real coeff) ∧
      t.stepSize seen target loss = .ok (.real eta', .real coeff') ∧
      SameIfFinite eta eta' ∧ SameIfFinite coeff coeff' := by
  obtain ⟨l, n, σ, above, -, hn, hσ, hsize⟩ := hs.inSystem.stepSize_of_aggressive h
  obtain ⟨n', hn', hneg⟩ := squaredNorm_not_negative h.scored
  obtain rfl : n = n' := by
    rw [hn] at hn'
    exact Scalar.real.inj hn'
  have hpos : NumberSystem.lt NumberSystem.zero (NumberSystem.infinity : F) = true := by
    obtain ⟨c, hc, hpos⟩ := hs.inSystem.aggressive
    rw [hs.infinite] at hc
    cases hc
    exact hpos
  have hsame := sizeIn_infinity s.settings.variant.rule t.settings.variant.rule l hneg
  exact ⟨_, _, _, _, hsize s _ hs.infinite hpos, hsize t _ ht.infinite hpos, hsame, hsame.sign hσ⟩

/-- **A step of both sessions**: they come to the same, up to step sizes that are not finite, and
remain the same but for the rule. -/
theorem Uncapped.step_abreast (hs : s.Uncapped) (ht : t.Uncapped) (h : Abreast Eq s t)
    (hcounters : s.counters = t.counters) (x : Features ι (Scalar F)) (target : Scalar F) :
    SameReport (s.step x target).2 (t.step x target).2 ∧
      Abreast Eq (s.step x target).1 (t.step x target).1 ∧
      (s.step x target).1.counters = (t.step x target).1.counters := by
  rcases h.step_or (matches_self x) target with
    ⟨hresult, habreast, counted, hs', ht'⟩ | ⟨seen, epsilon, loss, hjudged, hjudged', hpos⟩
  · rw [hresult, hs', ht', hcounters]
    exact ⟨.refl _, habreast, rfl⟩
  obtain ⟨eta, coeff, eta', coeff', hsize, hsize', heta, hcoeff⟩ := hs.exists_stepSizes ht hjudged
  have hmeasured := h.measuring target
  have hsized : Sized s x target seen epsilon loss (.real eta) (.real coeff) :=
    ⟨hjudged, hpos, hsize⟩
  have hsized' : Sized t x target seen epsilon loss (.real eta') (.real coeff') :=
    ⟨hjudged', hpos, hsize'⟩
  have hagrees : ∀ status, Outcome.Agrees
      ⟨status, seen.score, seen.squaredNorm, loss, epsilon, .real eta, .real coeff⟩
      ⟨status, seen.score, seen.squaredNorm, loss, epsilon, .real eta', .real coeff'⟩ :=
    fun _ => ⟨rfl, rfl, rfl, rfl, rfl, heta.real_eq, hcoeff.real_eq⟩
  have hskipped : NumberSystem.isFinite coeff = false → NumberSystem.isFinite coeff' = false →
      SameReport (s.step x target).2 (t.step x target).2 ∧
        Abreast Eq (s.step x target).1 (t.step x target).1 ∧
        (s.step x target).1.counters = (t.step x target).1.counters := by
    intro hfinite hfinite'
    rw [(StepsTo.skipped hsized (congrArg Except.ok hfinite)).step_eq,
      (StepsTo.skipped hsized' (congrArg Except.ok hfinite')).step_eq, hcounters]
    exact ⟨.outcome (hagrees _), { hmeasured with }, rfl⟩
  rcases hcoeff with rfl | ⟨hfinite, hfinite'⟩
  · cases hfinite : NumberSystem.isFinite coeff with
    | false => exact hskipped hfinite hfinite
    | true =>
      -- the same step size moves the same weights
      obtain ⟨weights, hmove⟩ := hs.inSystem.exists_moveAlong hsized
      have hmove' : moveAlong t.weights (.real coeff) x = (weights, .ok ()) := h.weights ▸ hmove
      rw [(StepsTo.updated hsized (congrArg Except.ok hfinite) hmove).step_eq,
        (StepsTo.updated hsized' (congrArg Except.ok hfinite) hmove').step_eq, hcounters]
      exact ⟨.outcome (hagrees _), { hmeasured with weights := rfl }, rfl⟩
  · exact hskipped hfinite hfinite'

/-- A stream through both sessions. -/
theorem Uncapped.feed_abreast (hs : s.Uncapped) (ht : t.Uncapped) (h : Abreast Eq s t)
    (hcounters : s.counters = t.counters) (stream : List (Example ι (Scalar F))) :
    List.Forall₂ SameReport (s.feed stream).2 (t.feed stream).2 ∧
      Abreast Eq (s.feed stream).1 (t.feed stream).1 ∧
      (s.feed stream).1.counters = (t.feed stream).1.counters := by
  induction stream generalizing s t with
  | nil => exact ⟨.nil, h, hcounters⟩
  | cons e stream ih =>
    obtain ⟨x, target⟩ := e
    obtain ⟨hreport, habreast, hcounted⟩ := hs.step_abreast ht h hcounters x target
    obtain ⟨hreports, hend⟩ := ih (hs.step x target) (ht.step x target) habreast hcounted
    rw [feed_cons, feed_cons]
    exact ⟨.cons hreport hreports, hend⟩

/-- **With an infinite aggressiveness the rule makes no difference.**  Let two sessions be created
for variants that both keep a spread or both keep none, with the same margin and an infinite
aggressiveness.  On every stream they come to the same faults and to outcomes that agree, and to the
same weights, spreads and counters. -/
theorem feed_infinite {settings settings' : Settings F}
    (hs : create (settings.map .real) = .ok s) (ht : create (settings'.map .real) = .ok t)
    (hadaptive : settings.variant.adaptive = settings'.variant.adaptive)
    (hepsilon : settings.epsilon = settings'.epsilon)
    (hinfinite : s.aggressiveness = .real NumberSystem.infinity)
    (hinfinite' : t.aggressiveness = .real NumberSystem.infinity)
    (stream : List (Example ι (Scalar F))) :
    List.Forall₂ SameReport (s.feed stream).2 (t.feed stream).2 ∧
      (s.feed stream).1.weights = (t.feed stream).1.weights ∧
      (s.feed stream).1.spread = (t.feed stream).1.spread ∧
      (s.feed stream).1.counters = (t.feed stream).1.counters := by
  have huncapped : s.Uncapped := ⟨(inSystem_of_create hs).1, hinfinite⟩
  have huncapped' : t.Uncapped := ⟨(inSystem_of_create ht).1, hinfinite'⟩
  have hspread : (if settings.variant.adaptive then some Spread.start else none) =
      if settings'.variant.adaptive then some (Spread.start : Spread (Scalar F)) else none := by
    rw [hadaptive]
  obtain ⟨habreast, hcounters⟩ : Abreast Eq s t ∧ s.counters = t.counters := by
    rw [eq_of_create hs, eq_of_create ht]
    exact ⟨⟨congrArg Scalar.real hepsilon, hspread, rfl, rfl⟩, rfl⟩
  obtain ⟨hreports, hend, hcounted⟩ := huncapped.feed_abreast huncapped' habreast hcounters stream
  exact ⟨hreports, hend.weights, hend.spread, hcounted⟩

/-- A new session with an infinite aggressiveness and without a margin. -/
def uncapped (v : Variant) : Session Value (Scalar Float) :=
  ⟨⟨v, some (.real (Number.infinity false)), .real (Number.zero false)⟩,
    .real (Number.infinity false), .empty, if v.adaptive then some .start else none, .idle, .none⟩

theorem create_uncapped (v : Variant) :
    create (Settings.map .real ⟨v, some (Number.infinity false), Number.zero false⟩) =
      .ok (uncapped v) := by
  cases v <;> rfl

/-- Examples with a value of which the square is infinite, without a value, with a value of which
the square vanishes, with one that is no number and with one that is a text. -/
def extreme : List (Example Value (Scalar Float)) :=
  [([⟨.int 1, .real (Number.ofDecimal false 1 200)⟩], .real (Number.infinity false)),
    ([⟨.int 1, .real (Number.ofInt 2)⟩], .int 3),
    ([], .int 1),
    ([⟨.int 2, .real (Number.ofDecimal false 1 (-300))⟩], .int 1),
    ([⟨.int 2, .real Number.nan⟩], .real (Number.ofInt 1)),
    ([⟨.int 3, .foreign .text⟩], .int 1)]

/-- Both rules on these examples.  At the first the step sizes are infinity and no number. -/
theorem feed_infinite_extreme :
    List.Forall₂ SameReport ((uncapped .pa1).feed extreme).2 ((uncapped .pa2).feed extreme).2 ∧
    ((uncapped .pa1).feed extreme).2 ≠ ((uncapped .pa2).feed extreme).2 ∧
    ((uncapped .pa1a).feed extreme).1.spread = ((uncapped .pa2a).feed extreme).1.spread := by
  have hreports := (feed_infinite (create_uncapped .pa1) (create_uncapped .pa2) rfl rfl rfl rfl
    extreme).1
  obtain ⟨-, -, hspread, -⟩ := feed_infinite (create_uncapped .pa1a) (create_uncapped .pa2a) rfl rfl
    rfl rfl extreme
  refine ⟨hreports, ?_, hspread⟩
  decide +kernel

end Session
end PassiveAggressive

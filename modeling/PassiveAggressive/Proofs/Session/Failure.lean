import PassiveAggressive.Learner.Description
import PassiveAggressive.Proofs.Double.Value
import PassiveAggressive.Proofs.Scalar.Learner
import PassiveAggressive.Proofs.Scalar.StepSize

/-!
# What a failed step leaves behind

A step over scalars can fail in two places only: where the example is scored, and where
the target is taken in or compared with the score.  Behind them everything has been
found to be a number, so the loss can be compared with zero, there is a step size, and
the weights move all the way (`InSystem.exists_stepSize`, `moveAlong_inSystem`).  In
particular an example is counted only if it does not fail, and the weights are never
left half way.

What fails in scoring leaves the session as it was, idle again.  What fails at the target leaves
the spread of an adaptive session with the target counted, and everything else as it
was (`InSystem.step_of_fault`).
-/

namespace PassiveAggressive

open Scalar

variable {ι F : Type} [NumberSystem F] [Key ι]

namespace Session

variable {s : Session ι (Scalar F)} {x : Features ι (Scalar F)} {target : Scalar F}
  {seen : Margin (Scalar F)} {epsilon loss : Scalar F}

/-! ## What has been found out when the loss is known -/

/-- An example that could be scored holds numbers, and its score and norm are numbers of the
system. -/
theorem InSystem.scored (hs : s.InSystem) (h : s.weights.scoreAndNorm x = .ok seen) :
    (seen.score.IsReal ∧ seen.squaredNorm.IsReal) ∧ ∀ f ∈ x, ∃ v, f.value.toReal = .ok v := by
  refine WeightMap.scoreAndNorm_induction
    (P := fun acc => acc.score.IsReal ∧ acc.squaredNorm.IsReal)
    (fun acc f acc' hacc h => ?_) ⟨isReal_zero, isReal_zero⟩ h
  obtain ⟨score, hscore, h⟩ := bind_eq_ok_iff.1 h
  obtain ⟨norm, hnorm, h⟩ := bind_eq_ok_iff.1 h
  cases h
  obtain ⟨w, hw, hscore⟩ := bind_eq_ok_iff.1 hscore
  obtain ⟨p, hp, hscore⟩ := bind_eq_ok_iff.1 hscore
  obtain ⟨-, v, -, hv, -⟩ := (mul_eq_ok_iff (.inl (hs.weights.get hw))).1 hp
  obtain ⟨_, _, -, -, rfl⟩ := (add_eq_ok_iff (.inl hacc.1)).1 hscore
  obtain ⟨q, -, hnorm⟩ := bind_eq_ok_iff.1 hnorm
  obtain ⟨_, _, -, -, rfl⟩ := (add_eq_ok_iff (.inl hacc.2)).1 hnorm
  exact ⟨⟨isReal_real _, isReal_real _⟩, v, hv⟩

omit [Key ι] in
/-- A margin is a number of the system. -/
theorem InSystem.margin_isReal (hs : s.InSystem) (h : (s.margin target).2 = .ok epsilon) :
    epsilon.IsReal := by
  unfold margin at h
  cases hspread : s.spread with
  | none =>
    simp only [hspread] at h
    cases h
    exact hs.epsilon
  | some t =>
    simp only [hspread] at h
    obtain ⟨-, -, h⟩ := bind_eq_ok_iff.1 h
    obtain ⟨d, -, h⟩ := bind_eq_ok_iff.1 h
    obtain ⟨_, _, -, -, rfl⟩ := (mul_eq_ok_iff (.inl hs.epsilon)).1 h
    exact isReal_real _

/-- A loss is a number of the system, and the target has been found to be a number. -/
theorem isReal_insensitiveLoss {p : Scalar F} (hp : p.IsReal)
    (h : insensitiveLoss p target epsilon = .ok loss) :
    loss.IsReal ∧ ∃ y, target.toReal = .ok y := by
  obtain ⟨d, hd, habs⟩ := bind_eq_ok_iff.1 h
  obtain ⟨_, y, -, hy, rfl⟩ := (sub_eq_ok_iff (.inl hp)).1 hd
  rw [abs_real, ok_bind] at habs
  obtain ⟨excess, hexcess, hpositive⟩ := bind_eq_ok_iff.1 habs
  obtain ⟨_, _, -, -, rfl⟩ := (sub_eq_ok_iff (.inl (isReal_real _))).1 hexcess
  rw [isPositive_real, ok_bind] at hpositive
  cases hpositive
  refine ⟨?_, y, hy⟩
  split
  · exact isReal_real _
  · exact isReal_zero

/-! ## Nothing fails behind the loss -/

variable [LawfulNumberSystem F]

/-- The step size and the signed step size are numbers of the system.  Of the session they depend on
the rule and the aggressiveness alone. -/
theorem InSystem.stepSize_of_aggressive (hs : s.InSystem)
    (h : Judged s x target seen epsilon loss) :
    ∃ l n σ : F, ∃ above : Bool, loss = .real l ∧ seen.squaredNorm = .real n ∧
      NumberSystem.ofInt? (if above then 1 else -1) = some σ ∧
      ∀ (t : Session ι (Scalar F)) (c : F), t.aggressiveness = .real c →
        NumberSystem.lt NumberSystem.zero c = true →
          t.stepSize seen target loss = .ok (.real (t.settings.variant.rule.sizeIn l n c),
            .real (NumberSystem.mul σ (t.settings.variant.rule.sizeIn l n c))) := by
  obtain ⟨⟨hscore, n, hn⟩, -⟩ := hs.scored h.scored
  obtain ⟨⟨l, rfl⟩, y, hy⟩ := isReal_insensitiveLoss hscore h.loss_eq
  obtain ⟨p, hp⟩ := hscore
  have hsub : Arithmetic.sub target seen.score = .ok (.real (NumberSystem.sub y p)) :=
    (sub_eq_ok_iff (.inr ⟨p, hp⟩)).2 ⟨y, p, hy, by rw [hp, toReal_real], rfl⟩
  obtain ⟨σ, hsign, hσ⟩ :=
    sign_toReal (F := F) (NumberSystem.lt NumberSystem.zero (NumberSystem.sub y p))
  refine ⟨l, n, σ, _, rfl, hn, hsign, fun t c hc hpos => ?_⟩
  have hmul := (mul_eq_ok_iff (.inr (isReal_real (t.settings.variant.rule.sizeIn l n c)))).2
    ⟨σ, _, hσ, toReal_real _, rfl⟩
  simp only [stepSize, hsub, ok_bind, isPositive_real, hn, hc, size_real _ l n hpos, hmul]

/-- The step size and the signed step size are numbers of the system, and how they are computed
there. -/
theorem InSystem.stepSize_eq (hs : s.InSystem) (h : Judged s x target seen epsilon loss) :
    ∃ l n c σ : F, ∃ above : Bool, loss = .real l ∧ seen.squaredNorm = .real n ∧
      s.aggressiveness = .real c ∧ NumberSystem.lt NumberSystem.zero c = true ∧
      NumberSystem.ofInt? (if above then 1 else -1) = some σ ∧
      s.stepSize seen target loss = .ok (.real (s.settings.variant.rule.sizeIn l n c),
        .real (NumberSystem.mul σ (s.settings.variant.rule.sizeIn l n c))) := by
  obtain ⟨c, hc, hpos⟩ := hs.aggressive
  obtain ⟨l, n, σ, above, hl, hn, hsign, hsize⟩ := hs.stepSize_of_aggressive h
  exact ⟨l, n, c, σ, above, hl, hn, hc, hpos, hsign, hsize s c hc hpos⟩

theorem InSystem.exists_stepSize (hs : s.InSystem) (h : Judged s x target seen epsilon loss) :
    ∃ eta coeff : F, s.stepSize seen target loss = .ok (.real eta, .real coeff) := by
  obtain ⟨_, _, _, _, _, -, -, -, -, -, hsize⟩ := hs.stepSize_eq h
  exact ⟨_, _, hsize⟩

omit [LawfulNumberSystem F] in
/-- The weights move all the way along an example that has been scored. -/
theorem moveAlong_inSystem {m : WeightMap ι (Scalar F)} (hm : m.InSystem) (coeff : F)
    (hkeys : ∀ f ∈ x, Key.check f.id = .ok ())
    (hvalues : ∀ f ∈ x, ∃ v, f.value.toReal = .ok v) :
    ∃ m', moveAlong m (.real coeff) x = (m', .ok ()) := by
  induction x generalizing m with
  | nil => exact ⟨m, rfl⟩
  | cons f fs ih =>
    obtain ⟨v, hv⟩ := hvalues f List.mem_cons_self
    have hmul : Arithmetic.mul (.real coeff) f.value =
        .ok (.real (NumberSystem.mul coeff v)) :=
      (mul_eq_ok_iff (.inl (isReal_real coeff))).2 ⟨coeff, v, toReal_real coeff, hv, rfl⟩
    obtain ⟨w, hget⟩ := hm.exists_get (hkeys f List.mem_cons_self)
    have hadd : m.add f.id (.real (NumberSystem.mul coeff v)) =
        .ok (m.insert f.id (.real (NumberSystem.add w (NumberSystem.mul coeff v)))) := by
      rw [WeightMap.add, hget, ok_bind, add_real, ok_bind]
    rw [moveAlong]
    simp only [hmul, ok_bind, hadd]
    exact ih (hm.add hadd) (fun g hg => hkeys g (List.mem_cons_of_mem _ hg))
      fun g hg => hvalues g (List.mem_cons_of_mem _ hg)

/-! ## A step that fails -/

/-- **A step fails in scoring or at the target**: scoring leaves the session as it was, and the
target has been taken into the spread as far as that went. -/
theorem InSystem.step_of_fault (hs : s.InSystem) {f : Fault}
    (h : (s.step x target).2 = .error (.fault f)) :
    s.phase ≠ .finalized ∧
    ((s.weights.scoreAndNorm x = .error f ∧ (s.step x target).1 = { s with phase := .idle }) ∨
      ∃ seen, s.weights.scoreAndNorm x = .ok seen ∧
        ((s.margin target).2 >>= insensitiveLoss seen.score target) = .error f ∧
        (s.step x target).1 = s.measuring target) := by
  have hsteps := stepsTo_step s x target
  generalize s.step x target = result at h hsteps
  obtain ⟨s', r⟩ := result
  simp only at h
  subst h
  cases hsteps with
  | unscored haccepts h => exact ⟨haccepts, .inl ⟨h, rfl⟩⟩
  | unmeasured haccepts hscored h =>
    exact ⟨haccepts, .inr ⟨_, hscored, by rw [h, error_bind], rfl⟩⟩
  | unjudged haccepts hscored hmargin h =>
    exact ⟨haccepts, .inr ⟨_, hscored, by rw [hmargin, ok_bind, h], rfl⟩⟩
  -- the other three do not occur
  | undecided hjudged h =>
    obtain ⟨⟨hscore, -⟩, -⟩ := hs.scored hjudged.scored
    obtain ⟨⟨l, rfl⟩, -⟩ := isReal_insensitiveLoss hscore hjudged.loss_eq
    cases h
  | unsized hjudged hpos h =>
    obtain ⟨_, _, hsize⟩ := hs.exists_stepSize hjudged
    rcases h with h | ⟨eta', coeff', h, hfinite⟩
    · rw [hsize] at h
      cases h
    · rw [hsize] at h
      cases h
      cases hfinite
  | stuck hsized hfinite h =>
    obtain ⟨_, _, hsize⟩ := hs.exists_stepSize hsized.toJudged
    rw [hsized.size_eq] at hsize
    cases hsize
    obtain ⟨m', hm'⟩ := moveAlong_inSystem hs.weights _
      (WeightMap.check_of_scoreAndNorm hsized.scored) (hs.scored hsized.scored).2
    rw [h] at hm'
    cases hm'

/-! ## Sessions over doubles -/

theorem create_of_open {settings : Settings Float} {s : OpenSession}
    (h : Session.open settings = .ok s) : create settings.operands = .ok s := by
  unfold Session.open at h
  split at h
  · rename_i s' hs'
    cases h
    exact hs'
  · cases h

theorem eq_of_open {settings : Settings Float} {s : OpenSession}
    (h : Session.open settings = .ok s) :
    s = ⟨settings.operands, s.aggressiveness, .empty,
      if settings.variant.adaptive then some .start else none, .idle, .none⟩ :=
  eq_of_create (create_of_open h)

theorem inSystem_of_open {settings : Settings Float} {s : OpenSession}
    (h : Session.open settings = .ok s) :
    s.InSystem ∧ s.settings = settings.operands ∧ s.phase = .idle :=
  inSystem_of_create (create_of_open h)

/-- The session has been created with the settings, and something may have been done to it. -/
def Reachable (settings : Settings Float) (s : OpenSession) : Prop :=
  ∃ s₀ calls, Session.open settings = .ok s₀ ∧ s₀.after calls = s

/-- A session opened without a margin and with the aggressiveness of its variant. -/
def untrained (v : Variant) : OpenSession :=
  ⟨⟨v, none, .real (Number.zero false)⟩, v.defaultAggressiveness Operand, .empty,
    if v.adaptive then some .start else none, .idle, .none⟩

theorem open_untrained (v : Variant) :
    Session.open ⟨v, none, Number.zero false⟩ = .ok (untrained v) := by
  cases v <;> rfl

theorem reachable_untrained (v : Variant) :
    Reachable ⟨v, none, Number.zero false⟩ (untrained v) :=
  ⟨untrained v, [], open_untrained v, rfl⟩

theorem Reachable.inSystem {settings : Settings Float} {s : OpenSession}
    (hs : Reachable settings s) :
    s.InSystem ∧ s.settings = settings.operands := by
  obtain ⟨s₀, calls, hopen, rfl⟩ := hs
  obtain ⟨hsys, hsettings, -⟩ := inSystem_of_open hopen
  obtain ⟨hafter, hsame⟩ := hsys.after calls
  exact ⟨hafter, hsame.trans hsettings⟩

theorem Reachable.idle {settings : Settings Float} {s : OpenSession} (hs : Reachable settings s)
    (haccepts : s.phase ≠ .finalized) : s.phase = .idle := by
  obtain ⟨s₀, calls, hopen, rfl⟩ := hs
  obtain ⟨hfinalized, hidle⟩ := phase_after (inSystem_of_open hopen).2.2 calls
  exact hidle.2 (mt hfinalized.2 haccepts)

/-- **What a failed step leaves behind.**  In every session that can be reached and still accepts
examples, an example that fails changes nothing but the spread, and the session is idle again; and
it leaves the spread as it was exactly if there is none,
or if the example failed in scoring.  Otherwise the target has been taken in as far as that went,
which counts it. -/
theorem step_of_error {settings : Settings Float} {s : OpenSession} (hs : Reachable settings s)
    (haccepts : s.phase ≠ .finalized) {x : OpenFeatures} {target : Operand} {e : StepError}
    (h : (s.step x target).2 = .error e) :
    (s.step x target).1 = { s with spread := (s.step x target).1.spread } ∧
    (s.step x target).1.phase = .idle ∧
    ((s.step x target).1.spread = s.spread ↔
      settings.variant.adaptive = false ∨ ∃ f, s.weights.scoreAndNorm x = .error f) ∧
    ((¬ ∃ f, s.weights.scoreAndNorm x = .error f) →
      (s.step x target).1.spread = s.spreadAfter target) := by
  obtain ⟨hsys, hsettings⟩ := hs.inSystem
  have hidle := hs.idle haccepts
  have hsame : ({ s with phase := .idle } : OpenSession) = s := by rw [← hidle]
  obtain ⟨f, rfl⟩ := exists_fault_of_accepts haccepts h
  have hadaptive : s.spread.isSome = settings.variant.adaptive := by
    rw [hsys.adaptive, hsettings]
    rfl
  obtain ⟨-, ⟨hscore, hstep⟩ | ⟨seen, hscore, -, hstep⟩⟩ := hsys.step_of_fault h
  · rw [hstep, hsame]
    exact ⟨rfl, hidle, ⟨fun _ => .inr ⟨f, hscore⟩, fun _ => rfl⟩,
      fun hno => (hno ⟨f, hscore⟩).elim⟩
  · have hno : ¬ ∃ f, s.weights.scoreAndNorm x = .error f := by
      rintro ⟨f, hf⟩
      rw [hscore] at hf
      cases hf
    rw [hstep]
    refine ⟨congrArg (fun s' : OpenSession => { s' with spread := s.spreadAfter target }) hsame,
      rfl, ⟨fun hsame => ?_, fun hcase => ?_⟩, fun _ => rfl⟩
    · -- a spread that takes the target in counts it
      left
      rw [← hadaptive]
      cases ht : s.spread with
      | none => rfl
      | some t =>
        have hobserve : (t.observe target).1 = t := by
          have : s.spreadAfter target = s.spread := hsame
          rw [spreadAfter, ht] at this
          exact Option.some.inj this
        have := t.count_observe target
        rw [hobserve] at this
        omega
    · have hnone : s.spread = none := by
        rw [hcase.resolve_right hno] at hadaptive
        exact Option.not_isSome_iff_eq_none.1 (Bool.eq_false_iff.1 hadaptive)
      change s.spreadAfter target = s.spread
      rw [spreadAfter, hnone, Option.map_none]

/-- An example with one feature, whose target is a text, stops an adaptive session. -/
theorem step_text :
    ((untrained .pa1a).step [⟨.int 1, .real (Number.ofInt 1)⟩] (.foreign .text)).2 =
      .error (.fault (.unsupported .sub .text .float)) := by
  decide +kernel

/-- In an adaptive session a target that is a text fails after the spread has counted it. -/
theorem step_of_error_text :
    Reachable ⟨.pa1a, none, Number.zero false⟩ (untrained .pa1a) ∧
      (untrained .pa1a).phase ≠ .finalized ∧
      ((untrained .pa1a).step [⟨.int 1, .real (Number.ofInt 1)⟩] (.foreign .text)).2 =
        .error (.fault (.unsupported .sub .text .float)) ∧
      (((untrained .pa1a).step [⟨.int 1, .real (Number.ofInt 1)⟩] (.foreign .text)).1.spread =
          (untrained .pa1a).spread ↔
        Variant.pa1a.adaptive = false ∨
          ∃ f, (untrained .pa1a).weights.scoreAndNorm [⟨.int 1, .real (Number.ofInt 1)⟩] =
            .error f) := by
  have hs := reachable_untrained .pa1a
  have haccepts : (untrained .pa1a).phase ≠ .finalized := by decide
  exact ⟨hs, haccepts, step_text, (step_of_error hs haccepts step_text).2.2.1⟩

/-- So a failed step may leave a session that is not the one before. -/
theorem not_forall_step_of_error_eq :
    ¬ ∀ (settings : Settings Float) (s : OpenSession) (x : OpenFeatures) (target : Operand)
      (e : StepError), Reachable settings s → s.phase ≠ .finalized →
        (s.step x target).2 = .error e → (s.step x target).1 = s := by
  intro h
  have hcount : ((untrained .pa1a).step [⟨.int 1, .real (Number.ofInt 1)⟩]
      (.foreign .text)).1.spread.map Spread.count = some 1 := by
    decide +kernel
  rw [h _ _ _ _ _ (reachable_untrained .pa1a) (by decide) step_text] at hcount
  cases hcount

end Session
end PassiveAggressive

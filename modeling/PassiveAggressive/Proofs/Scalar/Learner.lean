import PassiveAggressive.Proofs.Scalar.Real
import PassiveAggressive.Proofs.Session.Course

/-!
# The learner over scalars

The numbers a session holds --- its weights, its spread, its margin and its
aggressiveness --- are numbers of the underlying system from the beginning and remain so
whatever is done to it (`Session.InSystem`, `InSystem.after`).  Scalars of other kinds
come with examples only.  They are read when the example is scored and when the target is
taken in or compared with the score, and never kept.
-/

namespace PassiveAggressive

open Scalar

variable {ι F : Type} [NumberSystem F]

/-! ## What stays in the system -/

/-- Every weight is a number of the system. -/
def WeightMap.InSystem (m : WeightMap ι (Scalar F)) : Prop := ∀ e ∈ m.entries, e.2.IsReal

omit [NumberSystem F] in
theorem WeightMap.inSystem_empty : (WeightMap.empty : WeightMap ι (Scalar F)).InSystem :=
  fun _ he => absurd he List.not_mem_nil

/-- The mean and the sum are numbers of the system. -/
structure Spread.InSystem (t : Spread (Scalar F)) : Prop where
  mean : t.mean.IsReal
  sumSqDiff : t.sumSqDiff.IsReal

theorem Spread.inSystem_start : (Spread.start : Spread (Scalar F)).InSystem :=
  ⟨isReal_zero, isReal_zero⟩

namespace Spread

variable {t : Spread (Scalar F)}

/-- Taking a value in stays in the system, also where it stops half way. -/
theorem InSystem.observe (ht : t.InSystem) (value : Scalar F) :
    (t.observe value).1.InSystem := by
  unfold Spread.observe
  simp only
  cases hmean : ({ t with count := t.count + 1 } : Spread (Scalar F)).moveMean value with
  | error f => exact ⟨ht.mean, ht.sumSqDiff⟩
  | ok moved =>
    obtain ⟨delta, mean⟩ := moved
    obtain ⟨d, hd, hmean⟩ := bind_eq_ok_iff.1 hmean
    obtain ⟨share, hshare, hmean⟩ := bind_eq_ok_iff.1 hmean
    obtain ⟨m, hm, hmean⟩ := bind_eq_ok_iff.1 hmean
    cases hmean
    obtain ⟨x, y, -, -, rfl⟩ := (add_eq_ok_iff (.inl ht.mean)).1 hm
    simp only
    split
    · exact ⟨isReal_real _, ht.sumSqDiff⟩
    · rename_i sum hsum
      obtain ⟨d', -, hsum⟩ := bind_eq_ok_iff.1 hsum
      obtain ⟨p, -, hsum⟩ := bind_eq_ok_iff.1 hsum
      obtain ⟨a, b, -, -, rfl⟩ := (add_eq_ok_iff (.inl ht.sumSqDiff)).1 hsum
      exact ⟨isReal_real _, isReal_real _⟩

end Spread

namespace WeightMap

variable {m : WeightMap ι (Scalar F)}

omit [NumberSystem F] in
theorem InSystem.exists_map (hm : m.InSystem) : ∃ reals : WeightMap ι F, m = reals.map .real := by
  obtain ⟨es⟩ := m
  suffices h : ∃ reals : List (ι × F), es = reals.map fun e => (e.1, .real e.2) from
    h.elim fun reals hreals => ⟨⟨reals⟩, congrArg WeightMap.mk hreals⟩
  induction es with
  | nil => exact ⟨[], rfl⟩
  | cons e es ih =>
    obtain ⟨⟨w, hw⟩, hes⟩ := List.forall_mem_cons.1 hm
    obtain ⟨reals, rfl⟩ := ih hes
    exact ⟨(e.1, w) :: reals, by rw [List.map_cons, ← hw]⟩

variable [Key ι]

omit [NumberSystem F] in
theorem InSystem.insert (hm : m.InSystem) (id : ι) {w : Scalar F} (hw : w.IsReal) :
    (m.insert id w).InSystem :=
  forall_fileIn hm hw id

theorem InSystem.get (hm : m.InSystem) {id : ι} {w : Scalar F} (h : m.get id = .ok w) :
    w.IsReal :=
  of_get isReal_zero hm h

theorem InSystem.exists_get (hm : m.InSystem) {id : ι} (hkey : Key.check id = .ok ()) :
    ∃ w, m.get id = .ok (.real w) := by
  obtain ⟨w, hw⟩ := hm.get (get_eq hkey)
  exact ⟨w, hw ▸ get_eq hkey⟩

theorem InSystem.add (hm : m.InSystem) {id : ι} {delta : Scalar F} {m' : WeightMap ι (Scalar F)}
    (h : m.add id delta = .ok m') : m'.InSystem := by
  obtain ⟨w, hw, h⟩ := bind_eq_ok_iff.1 h
  obtain ⟨sum, hsum, h⟩ := bind_eq_ok_iff.1 h
  cases h
  obtain ⟨x, y, -, -, rfl⟩ := (add_eq_ok_iff (.inl (hm.get hw))).1 hsum
  exact hm.insert id (isReal_real _)

theorem InSystem.moveAlong (hm : m.InSystem) (coeff : Scalar F) (x : Features ι (Scalar F)) :
    (Session.moveAlong m coeff x).1.InSystem := by
  induction x generalizing m with
  | nil => exact hm
  | cons f fs ih =>
    rw [Session.moveAlong]
    split
    · exact hm
    · rename_i moved hmoved
      obtain ⟨delta, -, hmoved⟩ := bind_eq_ok_iff.1 hmoved
      exact ih (hm.add hmoved)

end WeightMap

/-! ## Sessions -/

namespace Session

/-- The numbers a session holds are numbers of the system, and its aggressiveness is greater than
zero. -/
structure InSystem (s : Session ι (Scalar F)) : Prop where
  weights : s.weights.InSystem
  epsilon : s.settings.epsilon.IsReal
  aggressive : ∃ c, s.aggressiveness = .real c ∧
    NumberSystem.lt NumberSystem.zero c = true
  spread : ∀ t, s.spread = some t → t.InSystem
  adaptive : s.spread.isSome = s.settings.variant.adaptive

/-- A session created with numbers of the system holds numbers of the system. -/
theorem inSystem_of_create {settings : Settings F} {s : Session ι (Scalar F)}
    (h : create (settings.map .real) = .ok s) :
    s.InSystem ∧ s.settings = settings.map .real ∧ s.phase = .idle := by
  obtain ⟨c, hc, hs⟩ := bind_eq_ok_iff.1 h
  cases hs
  have haggressive : ∃ x : F, c = .real x ∧ NumberSystem.lt NumberSystem.zero x = true := by
    have hreal : ∃ x : F, (settings.map Scalar.real).aggressiveness.getD
        ((settings.map Scalar.real).variant.defaultAggressiveness _) = .real x := by
      obtain ⟨variant, aggressiveness, epsilon⟩ := settings
      cases aggressiveness with
      | none => cases variant <;> exact ⟨_, rfl⟩
      | some x => exact ⟨x, rfl⟩
    obtain ⟨x, hx⟩ := hreal
    simp only [Settings.resolvedAggressiveness, hx, isPositive_real] at hc
    split at hc
    · rename_i hpos
      cases hc
      exact ⟨x, rfl, by simpa using hpos⟩
    · cases hc
  refine ⟨⟨by simp [WeightMap.InSystem], ⟨_, rfl⟩, haggressive, ?_, ?_⟩, rfl, rfl⟩
  · intro t ht
    simp only at ht
    split at ht
    · cases ht
      exact Spread.inSystem_start
    · cases ht
  · simp only
    split <;> simp_all

variable {s : Session ι (Scalar F)}

theorem InSystem.measuring (hs : s.InSystem) (target : Scalar F) :
    (s.measuring target).InSystem := by
  refine ⟨hs.weights, hs.epsilon, hs.aggressive, ?_, ?_⟩
  · intro t ht
    obtain ⟨t', ht', rfl⟩ := Option.map_eq_some_iff.1 ht
    exact (hs.spread t' ht').observe target
  · have := hs.adaptive
    simpa [Session.measuring, spreadAfter] using this

theorem InSystem.withWeights (hs : s.InSystem) {weights : WeightMap ι (Scalar F)}
    (hw : weights.InSystem) (phase : Phase) (counters : Counters) :
    ({ s with weights, phase, counters } : Session ι (Scalar F)).InSystem :=
  ⟨hw, hs.epsilon, hs.aggressive, hs.spread, hs.adaptive⟩

variable [Key ι]

/-- A step keeps the session in the system, whatever comes of it. -/
theorem InSystem.step (hs : s.InSystem) (x : Features ι (Scalar F)) (target : Scalar F) :
    (s.step x target).1.InSystem ∧ (s.step x target).1.settings = s.settings := by
  have hmeas := hs.measuring target
  have hsteps := stepsTo_step s x target
  generalize s.step x target = result at hsteps
  obtain ⟨s', r⟩ := result
  cases hsteps with
  | finalized h => exact ⟨hs, rfl⟩
  | unscored haccepts h => exact ⟨hs.withWeights hs.weights _ _, rfl⟩
  | unmeasured haccepts hscored h => exact ⟨hmeas, rfl⟩
  | unjudged haccepts hscored hmargin h => exact ⟨hmeas, rfl⟩
  | undecided hjudged h => exact ⟨hmeas.withWeights hs.weights _ _, rfl⟩
  | noUpdate hjudged h => exact ⟨hmeas.withWeights hs.weights _ _, rfl⟩
  | unsized hjudged hpos h => exact ⟨hmeas.withWeights hs.weights _ _, rfl⟩
  | skipped hsized h => exact ⟨hmeas.withWeights hs.weights _ _, rfl⟩
  | @stuck seen epsilon loss eta coeff weights f hsized hfinite h =>
    have := hs.weights.moveAlong coeff x
    rw [h] at this
    exact ⟨hmeas.withWeights this _ _, rfl⟩
  | @updated seen epsilon loss eta coeff weights hsized hfinite h =>
    have := hs.weights.moveAlong coeff x
    rw [h] at this
    exact ⟨hmeas.withWeights this _ _, rfl⟩

/-- **Whatever is done to a session**, its numbers are numbers of the system. -/
theorem InSystem.after (hs : s.InSystem) (calls : List (Call ι (Scalar F))) :
    (s.after calls).InSystem ∧ (s.after calls).settings = s.settings := by
  refine after_induction (P := fun s' => s'.InSystem ∧ s'.settings = s.settings) ?_ ⟨hs, rfl⟩ calls
  rintro s' c ⟨hs', hsettings⟩
  rw [← hsettings]
  cases c with
  | step x target => exact hs'.step x target
  | predict x => exact ⟨hs', rfl⟩
  | weights => exact ⟨hs', rfl⟩
  | adjust id delta =>
    simp only [call, adjust]
    split
    · rename_i weights h
      exact ⟨hs'.withWeights (hs'.weights.add h) _ _, rfl⟩
    · exact ⟨hs', rfl⟩
  | finalize => exact ⟨hs'.withWeights hs'.weights _ _, rfl⟩

end Session
end PassiveAggressive

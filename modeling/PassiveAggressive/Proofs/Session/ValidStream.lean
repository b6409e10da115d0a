import PassiveAggressive.Proofs.Double.Tracker
import PassiveAggressive.Proofs.Example.Acceptance
import PassiveAggressive.Proofs.Session.Failure

/-!
# Streams of valid examples

An example that has been found valid holds doubles, all of them finite, and ids that are
keys.  Such an example can always be scored, and its loss, its step size and the step
itself can always be computed, whatever the weights have become by then.  The only thing
that can fail is the deviation of an adaptive session: the spread of the targets may have
become negative, which it does by overflow alone (`Double.SumState`).

So a stream of valid examples stops at a target that is so far from the mean of the
targets before it that their difference is no double, and nowhere else
(`step_error_iff_of_valid`).  If all targets are in the half of the range around zero,
no two of them are that far apart, and every step comes to an outcome
(`step_ok_of_halfRange`).  In exact numbers nothing stops, nor in a session without a
spread.
-/

namespace PassiveAggressive

open Scalar

/-! ## Valid examples -/

namespace Example

variable {ι F : Type} [Key ι] [NumberSystem F]

/-- The example is accepted, its numbers being numbers of the system. -/
def Valid (e : Example ι F) : Prop := check (e.map Scalar.real).1 (e.map Scalar.real).2 = .ok ()

/-- Validity is decided by checking. -/
instance (e : Example ι F) : Decidable e.Valid :=
  decidable_of_iff ((check (e.map Scalar.real).1 (e.map Scalar.real).2).isOk = true) <| by
    unfold Valid
    cases check (e.map Scalar.real).1 (e.map Scalar.real).2 <;> simp [Except.isOk, Except.toBool]

theorem Valid.distinctIds {e : Example ι F} (h : e.Valid) :
    DistinctIds (e.1.map (Feature.map Scalar.real)) := by
  obtain ⟨-, -, hdistinct, -⟩ := check_eq_ok_iff.1 h
  exact hdistinct

theorem Valid.finite {e : Example ι F} (h : e.Valid) :
    (∀ f ∈ e.1, Key.check f.id = .ok () ∧ NumberSystem.isFinite f.value = true) ∧
      NumberSystem.isFinite e.2 = true := by
  obtain ⟨-, hfeatures, -, htarget⟩ := check_eq_ok_iff.1 h
  refine ⟨fun f hf => ?_, Except.ok.inj htarget⟩
  obtain ⟨hkey, hfinite⟩ := hfeatures (f.map .real) (List.mem_map_of_mem hf)
  exact ⟨hkey, by simpa using Except.ok.inj hfinite⟩

end Example

/-! ## What cannot fail -/

namespace Session

variable {ι F : Type} [NumberSystem F] [Key ι]

theorem addFeature_real {m : WeightMap ι (Scalar F)} (hm : m.InSystem) {f : Feature ι F}
    (hkey : Key.check f.id = .ok ()) :
    ∃ w, m.get f.id = .ok (.real w) ∧ ∀ p n : F,
      m.addFeature ⟨.real p, .real n⟩ (f.map .real) =
        .ok ⟨.real (NumberSystem.add p (NumberSystem.mul w f.value)),
          .real (NumberSystem.add n (NumberSystem.mul f.value f.value))⟩ := by
  obtain ⟨w, hget⟩ := hm.exists_get hkey
  refine ⟨w, hget, fun p n => ?_⟩
  simp only [WeightMap.addFeature, WeightMap.addToScore, WeightMap.addToNorm, Feature.map, hget,
    ok_bind, mul_real, add_real]

/-- Numbers of the system under ids that are keys can be scored. -/
theorem exists_scoreAndNorm {m : WeightMap ι (Scalar F)} (hm : m.InSystem) {x : Features ι F}
    (hkeys : ∀ f ∈ x, Key.check f.id = .ok ()) :
    ∃ score norm, m.scoreAndNorm (x.map (Feature.map .real)) = .ok ⟨.real score, .real norm⟩ := by
  rw [WeightMap.scoreAndNorm_eq_foldlM]
  suffices hfold : ∀ p n : F, ∃ score norm,
      (x.map (Feature.map .real)).foldlM m.addFeature ⟨.real p, .real n⟩ =
        .ok ⟨.real score, .real norm⟩ from hfold _ _
  induction x with
  | nil => exact fun p n => ⟨p, n, rfl⟩
  | cons f fs ih =>
    obtain ⟨hkey, hrest⟩ := List.forall_mem_cons.1 hkeys
    obtain ⟨w, -, hadd⟩ := addFeature_real hm hkey
    intro p n
    rw [List.map_cons, List.foldlM_cons, hadd, ok_bind]
    exact ih hrest _ _

omit [Key ι] in
theorem exists_insensitiveLoss (p y e : F) :
    ∃ loss, insensitiveLoss (Scalar.real p) (.real y) (.real e) = .ok (.real loss) := by
  simp only [insensitiveLoss, sub_real, abs_real, isPositive_real, ok_bind]
  split
  · exact ⟨_, rfl⟩
  · exact ⟨_, rfl⟩

/-- **A valid example fails at its margin only.** -/
theorem InSystem.error_iff_of_valid [LawfulNumberSystem F] {s : Session ι (Scalar F)}
    (hs : s.InSystem) (haccepts : s.phase ≠ .finalized) {e : Example ι F} (he : e.Valid)
    {err : StepError} :
    (s.step (e.map .real).1 (e.map .real).2).2 = .error err ↔
      ∃ f, (s.margin (.real e.2)).2 = .error f ∧ err = .fault f := by
  obtain ⟨score, norm, hscored⟩ := exists_scoreAndNorm hs.weights fun f hf => (he.finite.1 f hf).1
  constructor
  · intro h
    obtain ⟨f, rfl⟩ := exists_fault_of_accepts haccepts h
    refine ⟨f, ?_, rfl⟩
    obtain ⟨-, ⟨hno, -⟩ | ⟨seen, hseen, hfail, -⟩⟩ := hs.step_of_fault h
    · cases hscored.symm.trans hno
    · cases hscored.symm.trans hseen
      change ((s.margin (.real e.2)).2 >>= _) = _ at hfail
      cases hmargin : (s.margin (.real e.2)).2 with
      | error g =>
        rw [hmargin, error_bind] at hfail
        exact hfail
      | ok epsilon =>
        obtain ⟨q, rfl⟩ := hs.margin_isReal hmargin
        obtain ⟨loss, hloss⟩ := exists_insensitiveLoss score e.2 q
        rw [hmargin, ok_bind] at hfail
        cases hloss.symm.trans hfail
  · rintro ⟨f, hmargin, rfl⟩
    have hscored' : s.weights.scoreAndNorm (e.map .real).1 = .ok ⟨.real score, .real norm⟩ :=
      hscored
    have hmargin' : (s.margin (e.map .real).2).2 = .error f := hmargin
    rw [Session.step, if_neg haccepts]
    simp only [learn, hscored', margin_inPhase, hmargin', Except.mapError]

/-! ## Sessions over doubles -/

omit [NumberSystem F] [Key ι] in
theorem isReal_of_sqrt [NumberSystem F] {a c : Scalar F} (h : Arithmetic.sqrt a = .ok c) :
    c.IsReal := by
  obtain ⟨x, -, h⟩ := bind_eq_ok_iff.1 h
  obtain ⟨r, -, h⟩ := bind_eq_ok_iff.1 h
  cases h
  exact isReal_real r

/-- The session has been fed `n` valid examples since it was opened, as far as that can be seen in
it. -/
structure Fed (n : Nat) (s : OpenSession) : Prop where
  inSystem : s.InSystem
  idle : s.phase = .idle
  spread : ∀ t, s.spread = some t →
    ∃ mean sum, t = ⟨n, .real mean, .real sum⟩ ∧ Spread.Tracked n mean sum

theorem fed_of_open {settings : Settings Float} {s : OpenSession}
    (h : Session.open settings = .ok s) : Fed 0 s := by
  obtain ⟨hsys, -, hidle⟩ := inSystem_of_open h
  refine ⟨hsys, hidle, fun t ht => ⟨NumberSystem.zero, NumberSystem.zero, ?_, Spread.tracked_start⟩⟩
  rw [eq_of_open h] at ht
  simp only at ht
  split at ht
  · cases ht
    rfl
  · cases ht

variable {n : Nat} {s : OpenSession} {e : Example Value Float}

theorem Fed.spread_eq (hs : Fed n s) (he : e.Valid) :
    (s.step (e.map .real).1 (e.map .real).2).1.spread = s.spreadAfter (.real e.2) := by
  obtain ⟨score, norm, hscored⟩ := exists_scoreAndNorm hs.inSystem.weights
    fun f hf => (he.finite.1 f hf).1
  exact spread_step (accepts_of_idle hs.idle) hscored

/-- A valid example is counted, also if it fails. -/
theorem Fed.step (hs : Fed n s) (he : e.Valid) :
    Fed (n + 1) (s.step (e.map .real).1 (e.map .real).2).1 := by
  refine ⟨(hs.inSystem.step _ _).1, idle_step hs.idle _ _, fun t ht => ?_⟩
  rw [hs.spread_eq he] at ht
  obtain ⟨t₀, ht₀, rfl⟩ := Option.map_eq_some_iff.1 ht
  obtain ⟨mean, sum, rfl, htracked⟩ := hs.spread t₀ ht₀
  exact (htracked.observe he.finite.2 rfl).1

/-- The margin fails where the tracker stops. -/
theorem Fed.margin_error_iff (hs : Fed n s) {y : Float} (hy : NumberSystem.isFinite y = true)
    {f : Fault} :
    (s.margin (.real y)).2 = .error f ↔
      ∃ mean sum, s.spread = some ⟨n, .real mean, .real sum⟩ ∧ Spread.Stops n mean sum y f := by
  obtain ⟨q, hepsilon⟩ := hs.inSystem.epsilon
  unfold margin
  cases hspread : s.spread with
  | none => simp
  | some t =>
    obtain ⟨mean, sum, rfl, htracked⟩ := hs.spread t hspread
    rcases hobserve : (⟨n, .real mean, .real sum⟩ : Spread (Scalar Float)).observe (.real y)
      with ⟨t', r⟩
    have hstops := (htracked.observe hy hobserve).2 f
    have hmul : (r >>= fun _ => t'.deviation >>= fun d => Arithmetic.mul s.settings.epsilon d) =
        .error f ↔ (r >>= fun _ => t'.deviation) = .error f := by
      cases r with
      | error g => exact Iff.rfl
      | ok _ =>
        rw [ok_bind, ok_bind]
        cases hdev : t'.deviation with
        | error g => exact Iff.rfl
        | ok d =>
          obtain ⟨v, -, hroot⟩ := bind_eq_ok_iff.1 hdev
          obtain ⟨x, rfl⟩ := isReal_of_sqrt hroot
          rw [ok_bind, hepsilon, mul_real]
          simp
    have hany : Spread.Stops n mean sum y f ↔ ∃ mean' sum',
        some (⟨n, .real mean, .real sum⟩ : Spread (Scalar Float)) =
          some ⟨n, .real mean', .real sum'⟩ ∧ Spread.Stops n mean' sum' y f := by
      refine ⟨fun h => ⟨mean, sum, rfl, h⟩, ?_⟩
      rintro ⟨mean', sum', hsame, h⟩
      cases hsame
      exact h
    rw [← hany, ← hstops, ← hmul]
    simp only [hobserve]

theorem Fed.feed {stream : List (Example Value Float)} (hstream : ∀ e ∈ stream, e.Valid)
    (hs : Fed n s) : Fed (n + stream.length) (s.feed (stream.map (Example.map .real))).1 := by
  induction stream generalizing n s with
  | nil => exact hs
  | cons e rest ih =>
    obtain ⟨he, hrest⟩ := List.forall_mem_cons.1 hstream
    have := ih hrest (hs.step he)
    rwa [Nat.add_assoc, Nat.add_comm 1] at this

/-- The mean of an adaptive session is in the half of the range. -/
def MeanHalfRange (s : OpenSession) : Prop :=
  ∀ t, s.spread = some t → ∃ mean, t.mean = .real mean ∧ Double.HalfRange mean

theorem Fed.meanHalfRange_step (hs : Fed n s) (hmean : MeanHalfRange s) (he : e.Valid)
    (hy : Double.HalfRange e.2) :
    MeanHalfRange (s.step (e.map .real).1 (e.map .real).2).1 := by
  intro t ht
  rw [hs.spread_eq he] at ht
  obtain ⟨t₀, ht₀, rfl⟩ := Option.map_eq_some_iff.1 ht
  obtain ⟨mean, sum, rfl, htracked⟩ := hs.spread t₀ ht₀
  obtain ⟨mean', heq, hhalf⟩ := hmean _ ht₀
  cases heq
  obtain ⟨m', s', hnext, hhalf'⟩ := htracked.observe_halfRange hhalf hy rfl
  exact ⟨m', congrArg Spread.mean hnext, hhalf'⟩

theorem Fed.meanHalfRange_feed {stream : List (Example Value Float)}
    (hstream : ∀ e ∈ stream, e.Valid ∧ Double.HalfRange e.2) (hs : Fed n s)
    (hmean : MeanHalfRange s) : MeanHalfRange (s.feed (stream.map (Example.map .real))).1 := by
  induction stream generalizing n s with
  | nil => exact hmean
  | cons e rest ih =>
    obtain ⟨⟨he, hy⟩, hrest⟩ := List.forall_mem_cons.1 hstream
    exact ih hrest (hs.step he) (hs.meanHalfRange_step hmean he hy)

/-- **Targets in the half of the range** around zero do not stop a session: every valid example
comes to an outcome, as long as the examples can be counted in doubles. -/
theorem step_ok_of_halfRange {settings : Settings Float} {s₀ : OpenSession}
    (hopen : Session.open settings = .ok s₀) {stream : List (Example Value Float)}
    (hstream : ∀ e ∈ stream, e.Valid ∧ Double.HalfRange e.2) (he : e.Valid)
    (hy : Double.HalfRange e.2)
    (hcount : (NumberSystem.ofInt? ((stream.length + 1 : ℕ) : ℤ) : Option Float).isSome = true) :
    ∃ outcome, ((s₀.feed (stream.map (Example.map .real))).1.step (e.map .real).1
      (e.map .real).2).2 = .ok outcome := by
  have hopened := fed_of_open hopen
  have hfed := hopened.feed fun e he => (hstream e he).1
  rw [zero_add] at hfed
  have hmean : MeanHalfRange (s₀.feed (stream.map (Example.map .real))).1 := by
    refine hopened.meanHalfRange_feed hstream fun t ht => ?_
    obtain ⟨mean, sum, rfl, htracked⟩ := hopened.spread t ht
    exact ⟨mean, rfl, 0, htracked.start rfl, by simpa using Double.greatest_pos.le⟩
  generalize (s₀.feed (stream.map (Example.map .real))).1 = s at hfed hmean
  cases hresult : (s.step (e.map .real).1 (e.map .real).2).2 with
  | ok outcome => exact ⟨outcome, rfl⟩
  | error err =>
    exfalso
    obtain ⟨f, hf, -⟩ := (hfed.inSystem.error_iff_of_valid (accepts_of_idle hfed.idle) he).1 hresult
    obtain ⟨mean, sum, hspread, hstops⟩ := (hfed.margin_error_iff he.finite.2).1 hf
    obtain ⟨mean', heq, hhalf⟩ := hmean _ hspread
    cases heq
    exact Spread.not_stops_of_halfRange hhalf hy hcount f hstops

/-- **A stream of valid examples** fails at a target that is too far from the mean of the targets
before it, and nowhere else.  (The other way to stop a tracker needs more examples than there are
doubles to count them in.) -/
theorem step_error_iff_of_valid {settings : Settings Float} {s₀ s : OpenSession}
    (hopen : Session.open settings = .ok s₀) {stream : List (Example Value Float)}
    (hstream : ∀ e ∈ stream, e.Valid) (hs : (s₀.feed (stream.map (Example.map .real))).1 = s)
    (he : e.Valid) (err : StepError) :
    (s.step (e.map .real).1 (e.map .real).2).2 = .error err ↔
      ∃ mean sum f, s.spread = some ⟨stream.length, .real mean, .real sum⟩ ∧
        Spread.Stops stream.length mean sum e.2 f ∧ err = .fault f := by
  have hfed := (fed_of_open hopen).feed hstream
  rw [hs, zero_add] at hfed
  refine (hfed.inSystem.error_iff_of_valid (accepts_of_idle hfed.idle) he).trans ?_
  constructor
  · rintro ⟨f, hf, rfl⟩
    obtain ⟨mean, sum, hspread, hstops⟩ := (hfed.margin_error_iff he.finite.2).1 hf
    exact ⟨mean, sum, f, hspread, hstops, rfl⟩
  · rintro ⟨mean, sum, f, hspread, hstops, rfl⟩
    exact ⟨f, (hfed.margin_error_iff he.finite.2).2 ⟨mean, sum, hspread, hstops⟩, rfl⟩

/-- An example with one feature, of value one. -/
def single (target : Float) : Example Value Float := ([⟨.int 1, Number.ofInt 1⟩], target)

/-- A target of which the double is beyond the range. -/
def high : Example Value Float := single (Number.ofInt (2 ^ 1023))

/-- The opposite target. -/
def low : Example Value Float := single (Number.ofInt (-2 ^ 1023))

theorem valid_high : ∀ e ∈ [high], e.Valid := by decide +kernel

theorem valid_low : low.Valid := by decide +kernel

theorem step_opposite :
    (((untrained .pa1a).feed ([high].map (Example.map .real))).1.step (low.map .real).1
      (low.map .real).2).2 = .error (.fault .negativeRoot) := by
  decide +kernel

/-- The second of two opposite targets is too far from the first. -/
theorem step_error_opposite_targets :
    (∀ e ∈ [high], e.Valid) ∧ low.Valid ∧
      ∃ mean sum f,
        ((untrained .pa1a).feed ([high].map (Example.map .real))).1.spread =
          some ⟨1, .real mean, .real sum⟩ ∧
        Spread.Stops 1 mean sum low.2 f ∧ StepError.fault .negativeRoot = .fault f := by
  have hiff := step_error_iff_of_valid (open_untrained .pa1a) valid_high rfl valid_low
    (.fault .negativeRoot)
  exact ⟨valid_high, valid_low, hiff.1 step_opposite⟩

/-- So not every stream of valid examples is learnt from without an error. -/
theorem not_forall_step_ok :
    ¬ ∀ (settings : Settings Float) (s₀ : OpenSession) (stream : List (Example Value Float))
      (e : Example Value Float), Session.open settings = .ok s₀ →
        NumberSystem.isFinite settings.epsilon = true → (∀ e ∈ stream, e.Valid) → e.Valid →
        ∃ outcome, ((s₀.feed (stream.map (Example.map .real))).1.step (e.map .real).1
          (e.map .real).2).2 = .ok outcome := by
  intro h
  obtain ⟨outcome, hok⟩ := h _ _ [high] low (open_untrained .pa1a) (by decide +kernel) valid_high
    valid_low
  cases step_opposite.symm.trans hok

end Session
end PassiveAggressive

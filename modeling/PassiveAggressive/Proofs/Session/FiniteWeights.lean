import PassiveAggressive.Proofs.Double.Increment
import PassiveAggressive.Proofs.Session.ValidStream

/-!
# Finite weights

A step whose signed size is not finite is discarded, and every other step is taken.  That
does not keep the weights finite: the sum of a weight and its increment may overflow, and
the sum is not looked at.  A weight that has become infinite, or no number, remains so,
because nothing that is added to it makes it finite again (`Spoilt.moveAlong`).

So the weights are finite at the end of a stream of valid examples exactly if no sum that
was written has overflowed on the way.  The increments themselves are finite, with one
exception: where the step size is capped by a finite number and the loss is infinite, the
cap takes the place of the step size, and no relation to the values is left.
(`weights_finite_iff_of_valid`.)
-/

namespace PassiveAggressive

open Scalar

variable {ι α : Type}

/-- Every weight is finite. -/
def WeightMap.Finite [Arithmetic α] (m : WeightMap ι α) : Prop :=
  ∀ e ∈ m.entries, Arithmetic.isFinite e.2 = .ok true

instance [Arithmetic α] (m : WeightMap ι α) : Decidable m.Finite :=
  inferInstanceAs (Decidable (∀ e ∈ m.entries, Arithmetic.isFinite e.2 = .ok true))

/-- The increments of a step are finite. -/
def IncrementsFinite [Arithmetic α] (coeff : α) (x : Features ι α) : Prop :=
  ∀ f ∈ x, (do
    let delta ← Arithmetic.mul coeff f.value
    Arithmetic.isFinite delta) = .ok true

/-- The sums that a step writes are finite. -/
def SumsFinite [Key ι] [Arithmetic α] (m : WeightMap ι α) (coeff : α) (x : Features ι α) : Prop :=
  ∀ f ∈ x, (do
    let w ← m.get f.id
    let delta ← Arithmetic.mul coeff f.value
    let sum ← Arithmetic.add w delta
    Arithmetic.isFinite sum) = .ok true

/-! ## Moving the weights -/

namespace WeightMap

variable [Key ι] {m : WeightMap ι (Scalar Float)}

/-- After a sum is filed the weights are finite if they were before and the sum is. -/
theorem finite_insert_iff {id : ι} {w delta : Float} (hget : m.get id = .ok (.real w)) :
    (m.insert id (.real (NumberSystem.add w delta))).Finite ↔
      m.Finite ∧ NumberSystem.isFinite (NumberSystem.add w delta) = true := by
  obtain ⟨es⟩ := m
  have hsum : Arithmetic.isFinite (Scalar.real (NumberSystem.add w delta)) = .ok true ↔
      NumberSystem.isFinite (NumberSystem.add w delta) = true := by
    rw [isFinite_real, Except.ok.injEq]
  have hall := forall_fileIn_iff (fun w => Arithmetic.isFinite w = .ok true) id
    (.real (NumberSystem.add w delta)) es fun hfinite old hold => by
      -- the weight that is replaced is the one that was read
      obtain ⟨-, -, h⟩ := bind_eq_ok_iff.1 hget
      rw [hold] at h
      cases h
      exact congrArg Except.ok (Double.isFinite_of_isFinite_add (hsum.1 hfinite))
  rw [← hsum]
  exact hall.trans and_comm

theorem add_increment (m : WeightMap ι (Scalar Float)) (coeff : Float) (f : Feature ι Float) :
    (do
      let delta ← Arithmetic.mul (Scalar.real coeff) (f.map Scalar.real).value
      m.add (f.map Scalar.real).id delta) = m.add f.id (.real (NumberSystem.mul coeff f.value)) :=
  rfl

variable [LawfulKey ι]

/-- **The weights are finite after a move** if they were before and all sums that are written
are. -/
theorem finite_moveAlong_iff (hm : m.InSystem) (coeff : Float) {x : Features ι Float}
    (hkeys : ∀ f ∈ x, Key.check f.id = .ok ())
    (hdistinct : DistinctIds (x.map (Feature.map Scalar.real))) {m' : WeightMap ι (Scalar Float)}
    (h : Session.moveAlong m (.real coeff) (x.map (Feature.map .real)) = (m', .ok ())) :
    m'.Finite ↔ m.Finite ∧ SumsFinite m (.real coeff) (x.map (Feature.map .real)) := by
  induction x generalizing m with
  | nil =>
    cases h
    simp [SumsFinite]
  | cons f fs ih =>
    obtain ⟨hkey, hkeys⟩ := List.forall_mem_cons.1 hkeys
    rw [List.map_cons] at hdistinct h ⊢
    obtain ⟨hother, hdistinct⟩ := List.pairwise_cons.1 hdistinct
    obtain ⟨w, hget, -⟩ := Session.addFeature_real hm hkey
    have hadd : m.add f.id (.real (NumberSystem.mul coeff f.value)) =
        .ok (m.insert f.id (.real (NumberSystem.add w (NumberSystem.mul coeff f.value)))) := by
      simp only [WeightMap.add, hget, ok_bind, add_real]
    rw [Session.moveAlong, add_increment, hadd] at h
    have hstep := ih (hm.add hadd) hkeys hdistinct h
    rw [hstep, finite_insert_iff hget, and_assoc]
    refine and_congr_right fun _ => ?_
    unfold SumsFinite
    rw [List.forall_mem_cons]
    refine and_congr ?_ ?_
    · simp only [Feature.map, hget, ok_bind, mul_real, add_real, isFinite_real, Except.ok.injEq]
    · refine forall₂_congr fun g hg => ?_
      have hsame : Key.same f.id g.id = false := hother g hg
      rw [get_insert_of_ne hsame]

/-! ## Weights that are not finite -/

omit [LawfulKey ι] in
/-- The weight of the id is a double that is not finite. -/
def Spoilt (m : WeightMap ι (Scalar Float)) (id : ι) : Prop :=
  ∃ w, m.get id = .ok (.real w) ∧ NumberSystem.isFinite w = false

variable {m' : WeightMap ι (Scalar Float)} {id id' : ι}

/-- **A spoilt weight remains spoilt**, whatever is added to it or to another. -/
theorem Spoilt.add (h : m.Spoilt id) {delta : Float} (hadd : m.add id' (.real delta) = .ok m') :
    m'.Spoilt id := by
  obtain ⟨w, hget, hw⟩ := h
  obtain ⟨old, hold, hadd⟩ := bind_eq_ok_iff.1 hadd
  obtain ⟨sum, hsum, hadd⟩ := bind_eq_ok_iff.1 hadd
  cases hadd
  cases hsame : Key.same id' id with
  | false => exact ⟨w, (get_insert_of_ne hsame sum).trans hget, hw⟩
  | true =>
    -- the weight that is added to is the spoilt one
    have hkey := check_of_get hget
    have hread : old = .real w := by
      rw [get_eq (check_of_get hold), find?_congr hsame] at hold
      rw [get_eq hkey, hold] at hget
      exact Except.ok.inj hget
    cases hread
    cases hsum
    refine ⟨_, get_insert_of_same hsame hkey _, Bool.eq_false_iff.2 fun hfinite => ?_⟩
    rw [Double.isFinite_of_isFinite_add hfinite] at hw
    cases hw

theorem Spoilt.moveAlong (h : m.Spoilt id) (coeff : Float) (x : Features ι Float) :
    (Session.moveAlong m (.real coeff) (x.map (Feature.map .real))).1.Spoilt id := by
  induction x generalizing m with
  | nil => exact h
  | cons f fs ih =>
    rw [List.map_cons, Session.moveAlong, add_increment]
    cases hadd : m.add f.id (.real (NumberSystem.mul coeff f.value)) with
    | error fault => exact h
    | ok moved => exact ih (h.add hadd)

end WeightMap

/-! ## The increments -/

namespace Session

open Double

variable [Key ι]

/-- The norm of an example is at least the square of each of its values. -/
theorem atLeastSquare_norm {m : WeightMap ι (Scalar Float)} (hm : m.InSystem)
    {x : Features ι Float}
    (hx : ∀ f ∈ x, Key.check f.id = .ok () ∧ NumberSystem.isFinite f.value = true)
    {score norm : Float}
    (h : m.scoreAndNorm (x.map (Feature.map .real)) = .ok ⟨.real score, .real norm⟩) :
    AtLeastZero (exact norm) ∧
      ∀ f ∈ x, ∀ v, exact f.value = .finite v → AtLeastSquare v (exact norm) := by
  -- what the sum has come to is kept by the features that follow
  suffices hfold : ∀ p n : Float, AtLeastZero (exact n) →
      (x.map (Feature.map .real)).foldlM m.addFeature ⟨.real p, .real n⟩ =
        .ok ⟨.real score, .real norm⟩ →
      AtLeastZero (exact norm) ∧ (∀ v, AtLeastSquare v (exact n) → AtLeastSquare v (exact norm)) ∧
        ∀ f ∈ x, ∀ v, exact f.value = .finite v → AtLeastSquare v (exact norm) by
    have hzero : AtLeastZero (exact NumberSystem.zero) := by
      rw [exact_systemZero]
      exact le_refl (0 : ℚ)
    obtain ⟨hnorm, -, hsquares⟩ := hfold _ _ hzero h
    exact ⟨hnorm, hsquares⟩
  clear h
  induction x with
  | nil =>
    intro p n hn h
    cases h
    exact ⟨hn, fun v hv => hv, by simp⟩
  | cons f fs ih =>
    obtain ⟨⟨hkey, hfinite⟩, hrest⟩ := List.forall_mem_cons.1 hx
    obtain ⟨v, hv⟩ := (isFinite_iff f.value).1 hfinite
    obtain ⟨w, -, hadd⟩ := addFeature_real hm hkey
    intro p n hn h
    rw [List.map_cons, List.foldlM_cons, hadd, ok_bind] at h
    have hsquare := atLeastSquare_mul hv
    obtain ⟨hnorm, hkept, hsquares⟩ :=
      ih hrest _ _ ((rounds_add n _).atLeastZero (hn.add hsquare.atLeastZero)) h
    refine ⟨hnorm, fun v' hv' => hkept v' (hv'.add hsquare.atLeastZero),
      List.forall_mem_cons.2 ⟨fun v' hv' => ?_, hsquares⟩⟩
    obtain rfl := Exact.finite.inj (hv.symm.trans hv')
    exact hkept v (AtLeastSquare.add_left hn hsquare)

variable {s : Session ι (Scalar Float)} {e : Example ι Float} {seen : Margin (Scalar Float)}
  {epsilon loss eta coeff : Scalar Float}

/-- **The increments of a step are finite**, unless the loss is infinite and the step size capped by
a finite number. -/
theorem InSystem.incrementsFinite (hs : s.InSystem) (he : e.Valid)
    (hsized : Sized s (e.map .real).1 (e.map .real).2 seen epsilon loss eta coeff)
    (hfinite : Arithmetic.isFinite coeff = .ok true) :
    s.settings.variant.rule = .capped ∧ Arithmetic.isFinite s.aggressiveness = .ok true ∧
        Arithmetic.isFinite loss = .ok false ∨
      IncrementsFinite coeff (e.map .real).1 := by
  obtain ⟨l, n, c, σ, above, rfl, hn, hc, hpos, hsign, hsize⟩ := hs.stepSize_eq hsized.toJudged
  rw [hsized.size_eq] at hsize
  cases hsize
  obtain ⟨u, hu, hu1⟩ := exact_of_sign hsign
  obtain ⟨score, norm, hscored⟩ := exists_scoreAndNorm hs.weights fun f hf => (he.finite.1 f hf).1
  obtain rfl := Except.ok.inj (hsized.scored.symm.trans hscored)
  cases hn
  obtain ⟨hnorm, hsquares⟩ := atLeastSquare_norm hs.weights he.finite.1 hscored
  rw [isFinite_real, Except.ok.injEq] at hfinite
  obtain ⟨h, hh, hcoeff⟩ := exact_signed_size hu hu1 hfinite
  have hpositive : NumberSystem.lt NumberSystem.zero l = true := Except.ok.inj hsized.positive
  rcases (zero_lt_iff l).1 hpositive with ⟨q, hl, hq⟩ | hl
  · right
    intro f hf
    obtain ⟨g, hg, rfl⟩ := List.mem_map.1 hf
    obtain ⟨v, hv⟩ := (isFinite_iff g.value).1 (he.finite.1 g hg).2
    obtain ⟨hrep, hle⟩ := representable_of_exact hv
    have hmovable := movable_sizeIn hl hq.le hpos hrep hle (hsquares g hg v hv)
      ((isFinite_iff _).2 ⟨h, hh⟩)
    rw [hh] at hmovable
    rw [Feature.map, mul_real, ok_bind, isFinite_real, isFinite_increment hcoeff hu1 hv hmovable]
  · left
    obtain ⟨hrule, hcap⟩ := of_isFinite_sizeIn hl hnorm hpos ((isFinite_iff _).2 ⟨h, hh⟩)
    refine ⟨hrule, by rw [hc, isFinite_real, hcap], ?_⟩
    rw [isFinite_real, isFinite_eq, hl]
    rfl

/-- A step of a valid example leaves the weights finite if they were before and all sums that it
writes are. -/
theorem InSystem.finite_step_iff [LawfulKey ι] (hs : s.InSystem) (haccepts : s.phase ≠ .finalized)
    (he : e.Valid) :
    (s.step (e.map .real).1 (e.map .real).2).1.weights.Finite ↔ s.weights.Finite ∧
      ∀ outcome, (s.step (e.map .real).1 (e.map .real).2).2 = .ok outcome →
        outcome.status = .updated → SumsFinite s.weights outcome.coeff (e.map .real).1 := by
  rcases hstep : s.step (e.map .real).1 (e.map .real).2 with ⟨s', err | outcome⟩
  · -- a step that fails does not touch the weights
    have herr : (s.step (e.map .real).1 (e.map .real).2).2 = .error err := by rw [hstep]
    obtain ⟨f, rfl⟩ := exists_fault_of_accepts haccepts herr
    have hweights : s'.weights = s.weights := by
      have hsame : s'.weights = (s.step (e.map .real).1 (e.map .real).2).1.weights := by rw [hstep]
      obtain ⟨-, ⟨-, h⟩ | ⟨_, -, -, h⟩⟩ := hs.step_of_fault herr
      · rw [hsame, h]
      · rw [hsame, h]
        rfl
    rw [hstep]
    simp [hweights]
  · have hsteps := stepsTo_step s (e.map .real).1 (e.map .real).2
    rw [hstep] at hsteps ⊢
    cases hsteps with
    | noUpdate | skipped =>
      refine ⟨fun hw => ⟨hw, fun _ houtcome hupdated => ?_⟩, And.left⟩
      cases houtcome
      cases hupdated
    | updated hsized hfinite h =>
      obtain ⟨_, _, hsize⟩ := hs.exists_stepSize hsized.toJudged
      rw [hsized.size_eq] at hsize
      cases hsize
      refine (WeightMap.finite_moveAlong_iff hs.weights _ (fun f hf => (he.finite.1 f hf).1)
        he.distinctIds h).trans (and_congr_right fun _ => ?_)
      exact ⟨fun hsums _ houtcome _ => by cases houtcome; exact hsums, fun hall => hall _ rfl rfl⟩

/-- The signed step size is a double, so a move by it leaves a spoilt weight spoilt. -/
theorem InSystem.spoilt_moved [LawfulKey ι] (hs : s.InSystem) {id : ι} (h : s.weights.Spoilt id)
    (hsized : Sized s (e.map .real).1 (e.map .real).2 seen epsilon loss eta coeff) :
    (moveAlong s.weights coeff (e.map .real).1).1.Spoilt id := by
  obtain ⟨_, _, hsize⟩ := hs.exists_stepSize hsized.toJudged
  rw [hsized.size_eq] at hsize
  cases hsize
  exact h.moveAlong _ e.1

theorem InSystem.spoilt_step [LawfulKey ι] (hs : s.InSystem) {id : ι} (h : s.weights.Spoilt id) :
    (s.step (e.map .real).1 (e.map .real).2).1.weights.Spoilt id := by
  have hsteps := stepsTo_step s (e.map .real).1 (e.map .real).2
  generalize s.step (e.map .real).1 (e.map .real).2 = result at hsteps
  obtain ⟨s', r⟩ := result
  cases hsteps with
  | stuck hsized hfinite hmove | updated hsized hfinite hmove =>
    have hmoved := hs.spoilt_moved h hsized
    rwa [hmove] at hmoved
  | _ => exact h

end Session

/-! ## Streams -/

namespace Session

/-- The steps of a stream that move the weights: the session before the step, the example, and what
the step reports. -/
def Updates (s₀ : OpenSession) (stream : List (Example Value Float)) (s : OpenSession)
    (e : Example Value Float) (outcome : Outcome Operand) : Prop :=
  ∃ pre post, stream = pre ++ e :: post ∧ (s₀.feed (pre.map (Example.map .real))).1 = s ∧
    (s.step (e.map .real).1 (e.map .real).2).2 = .ok outcome ∧ outcome.status = .updated

/-- The steps of a longer stream: the first one, or one of the rest. -/
theorem updates_cons_iff {s₀ s : OpenSession} {first e : Example Value Float}
    {rest : List (Example Value Float)} {outcome : Outcome Operand} :
    Updates s₀ (first :: rest) s e outcome ↔
      (s₀ = s ∧ first = e ∧ (s.step (e.map .real).1 (e.map .real).2).2 = .ok outcome ∧
        outcome.status = .updated) ∨
      Updates (s₀.step (first.map .real).1 (first.map .real).2).1 rest s e outcome := by
  constructor
  · rintro ⟨pre, post, hstream, hs, hstep, hstatus⟩
    cases pre with
    | nil =>
      cases hstream
      exact .inl ⟨hs, rfl, hstep, hstatus⟩
    | cons first' pre =>
      cases hstream
      exact .inr ⟨pre, post, rfl, hs, hstep, hstatus⟩
  · rintro (⟨rfl, rfl, hstep, hstatus⟩ | ⟨pre, post, rfl, hs, hstep, hstatus⟩)
    · exact ⟨[], rest, rfl, rfl, hstep, hstatus⟩
    · exact ⟨first :: pre, post, rfl, hs, hstep, hstatus⟩

/-- The weights are finite after a stream if they were before and all sums that it writes are. -/
theorem Fed.finite_feed_iff {n : Nat} {s₀ : OpenSession} (hs : Fed n s₀)
    {stream : List (Example Value Float)} (hstream : ∀ e ∈ stream, e.Valid) :
    (s₀.feed (stream.map (Example.map .real))).1.weights.Finite ↔ s₀.weights.Finite ∧
      ∀ s e outcome, Updates s₀ stream s e outcome →
        SumsFinite s.weights outcome.coeff (e.map .real).1 := by
  induction stream generalizing n s₀ with
  | nil =>
    have hno : ∀ s e outcome, ¬ Updates s₀ [] s e outcome := by
      rintro s e outcome ⟨pre, post, hnil, -⟩
      simp at hnil
    simp [hno]
  | cons first rest ih =>
    obtain ⟨hfirst, hrest⟩ := List.forall_mem_cons.1 hstream
    refine (ih (hs.step hfirst) hrest).trans ?_
    rw [hs.inSystem.finite_step_iff (accepts_of_idle hs.idle) hfirst, and_assoc]
    refine and_congr_right fun _ => ⟨?_, fun h => ⟨fun outcome hstep hstatus => ?_, ?_⟩⟩
    · rintro ⟨hhead, htail⟩ s e outcome hupdates
      rcases updates_cons_iff.1 hupdates with ⟨rfl, rfl, hstep, hstatus⟩ | hupdates
      · exact hhead outcome hstep hstatus
      · exact htail s e outcome hupdates
    · exact h s₀ first outcome (updates_cons_iff.2 (.inl ⟨rfl, rfl, hstep, hstatus⟩))
    · exact fun s e outcome hupdates => h s e outcome (updates_cons_iff.2 (.inr hupdates))

/-- A weight that is not finite at some point of a stream is not finite at its end. -/
theorem InSystem.spoilt_feed {s : OpenSession} (hs : s.InSystem) {id : Value}
    (h : s.weights.Spoilt id) (stream : List (Example Value Float)) :
    (s.feed (stream.map (Example.map .real))).1.weights.Spoilt id := by
  induction stream generalizing s with
  | nil => exact h
  | cons e rest ih => exact ih (hs.step _ _).1 (hs.spoilt_step h)

/-- **When the weights are finite.**  At the end of a stream of valid examples they are if and only
if no sum that was written has overflowed, and a weight that is not finite at some point of the
stream is not finite from then on.  The increments are finite on their own, unless the loss is
infinite and the step size capped by a finite number. -/
theorem weights_finite_iff_of_valid {settings : Settings Float} {s₀ : OpenSession}
    (hopen : Session.open settings = .ok s₀) {stream : List (Example Value Float)}
    (hstream : ∀ e ∈ stream, e.Valid) :
    ((s₀.feed (stream.map (Example.map .real))).1.weights.Finite ↔
      ∀ s e outcome, Updates s₀ stream s e outcome →
        SumsFinite s.weights outcome.coeff (e.map .real).1) ∧
    (∀ pre post, stream = pre ++ post →
      ∀ id, (s₀.feed (pre.map (Example.map .real))).1.weights.Spoilt id →
        (s₀.feed (stream.map (Example.map .real))).1.weights.Spoilt id) ∧
    ∀ s e outcome, Updates s₀ stream s e outcome →
      settings.variant.rule = .capped ∧ Arithmetic.isFinite s₀.aggressiveness = .ok true ∧
          Arithmetic.isFinite outcome.loss = .ok false ∨
        IncrementsFinite outcome.coeff (e.map .real).1 := by
  have hfed := fed_of_open hopen
  have hempty : s₀.weights.Finite := by
    rw [eq_of_open hopen]
    intro e he
    cases he
  refine ⟨(hfed.finite_feed_iff hstream).trans (and_iff_right hempty), ?_, ?_⟩
  · rintro pre post rfl id h
    have hpre := hfed.feed fun e he => hstream e (List.mem_append_left post he)
    rw [List.map_append, feed_append]
    exact hpre.inSystem.spoilt_feed h post
  rintro s e outcome ⟨pre, post, rfl, rfl, hstep, hstatus⟩
  obtain ⟨hpre, hrest⟩ := List.forall_mem_append.1 hstream
  have hs := hfed.feed hpre
  obtain ⟨seen, hsized, hfinite⟩ := sized_of_updated hstep hstatus
  have hincrements := hs.inSystem.incrementsFinite (List.forall_mem_cons.1 hrest).1 hsized hfinite
  obtain ⟨hsettings, haggressive⟩ := settings_feed s₀ (pre.map (Example.map .real))
  rw [hsettings, haggressive, (inSystem_of_open hopen).2.1] at hincrements
  exact hincrements

/-- Two examples of which the second asks for a weight that is greater than every double. -/
def demanding : List (Example Value Float) :=
  [single (Number.ofInt (15 * 2 ^ 1020)),
    ([⟨.int 1, Number.nearest false 7 8⟩], Number.ofInt (15 * 2 ^ 1020))]

theorem valid_demanding : ∀ e ∈ demanding, e.Valid := by decide +kernel

theorem not_finite_demanding :
    ¬ ((untrained .pa1).feed (demanding.map (Example.map .real))).1.weights.Finite := by
  decide +kernel

/-- A sum overflows although its increment is finite. -/
theorem weights_not_finite_of_two_examples :
    (∀ e ∈ demanding, e.Valid) ∧
      ∃ s e outcome, Updates (untrained .pa1) demanding s e outcome ∧
        ¬ SumsFinite s.weights outcome.coeff (e.map .real).1 ∧
        IncrementsFinite outcome.coeff (e.map .real).1 := by
  obtain ⟨hiff, -, hincrements⟩ :=
    weights_finite_iff_of_valid (open_untrained .pa1) valid_demanding
  have hsome := not_finite_demanding
  rw [hiff] at hsome
  push Not at hsome
  obtain ⟨s, e, outcome, hupdates, hsums⟩ := hsome
  refine ⟨valid_demanding, s, e, outcome, hupdates, hsums, ?_⟩
  refine (hincrements s e outcome hupdates).resolve_left ?_
  rintro ⟨-, hcap, -⟩
  exact absurd hcap (by decide +kernel)

/-- So the weights do not always stay finite. -/
theorem not_forall_weights_finite :
    ¬ ∀ (settings : Settings Float) (s₀ : OpenSession) (stream : List (Example Value Float)),
      Session.open settings = .ok s₀ → NumberSystem.isFinite settings.epsilon = true →
        (∀ e ∈ stream, e.Valid) →
        (s₀.feed (stream.map (Example.map .real))).1.weights.Finite := by
  intro h
  exact not_finite_demanding
    (h _ _ demanding (open_untrained .pa1) (by decide +kernel) valid_demanding)

end Session
end PassiveAggressive

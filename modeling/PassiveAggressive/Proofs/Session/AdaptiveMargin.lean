import PassiveAggressive.Proofs.Exact.Step
import PassiveAggressive.Proofs.Session.Replay

/-!
# The margin of an adaptive session

An adaptive session takes every target into its spread and scales its margin by the
deviation.  So the margin that it reports depends on the targets that came before and on
this one, and on nothing else: not on what the examples were made of, nor on what the
session has learnt, nor on whether an earlier step moved the weights, was discarded, or was
not needed.

This takes two observations.  A step that reports an outcome, whatever its status, has taken
its target in exactly once and has done so before it came to the margin
(`handle_of_step`); and nothing else that can be done with a session touches the spread.
By induction over the run the margin is then what the targets alone make of a new spread
(`Spread.scaledDeviation`), in any arithmetic and to the last bit.

Over exact numbers it is the deviation that one would write down, and its square follows from the
squared deviations of the targets from their mean (`Spread.sq_scaledDeviation`).
-/

namespace PassiveAggressive

/-! ## Targets -/

/-- The targets that are met in a run, in their order. -/
def targets {ι α : Type} : List (Call ι α) → List α
  | [] => []
  | .step _ target :: calls => target :: targets calls
  | _ :: calls => targets calls

theorem targets_map {ι α β : Type} (g : α → β) (calls : List (Call ι α)) :
    targets (calls.map (Call.map g)) = (targets calls).map g := by
  induction calls with
  | nil => rfl
  | cons c calls ih =>
      cases c with
      | step x target => exact congrArg (g target :: ·) ih
      | predict | weights | adjust | finalize => exact ih

namespace Spread

section General

variable {α : Type} [Arithmetic α]

/-- The spread with one more value, if the value can be taken in. -/
def handle (t : Spread α) (value : α) : Except Fault (Spread α) := do
  (t.observe value).2
  .ok (t.observe value).1

/-- Takes the values in, one after the other, and scales a margin by the deviation. -/
def scaledDeviation (t : Spread α) (epsilon : α) (values : List α) : Except Fault α := do
  let t ← values.foldlM handle t
  let deviation ← t.deviation
  Arithmetic.mul epsilon deviation

theorem scaledDeviation_cons {t t' : Spread α} {value : α} (h : t.handle value = .ok t')
    (epsilon : α) (values : List α) :
    t.scaledDeviation epsilon (value :: values) = t'.scaledDeviation epsilon values := by
  rw [scaledDeviation, List.foldlM_cons, h, ok_bind]
  rfl

end General
end Spread

namespace Session

variable {ι α : Type} [Key ι] [Arithmetic α] {s : Session ι α}

/-! ## One step -/

/-- **One step.**  Whatever its status, it has taken the target into the spread once, and the margin it
reports is scaled by the deviation after that. -/
theorem handle_of_step {t : Spread α} (ht : s.spread = some t) {x : Features ι α} {target : α}
    {o : Outcome α} (h : (s.step x target).2 = .ok o) :
    ∃ t', t.handle target = .ok t' ∧ (s.step x target).1.spread = some t' ∧
      t'.scaledDeviation s.settings.epsilon [] = .ok o.epsilon := by
  obtain ⟨seen, hjudged⟩ := judged_of_ok h
  have hmargin := hjudged.margin_eq
  simp only [margin, ht] at hmargin
  obtain ⟨taken, htaken, hscaled⟩ := bind_eq_ok_iff.1 hmargin
  refine ⟨(t.observe target).1, ?_, ?_, hscaled⟩
  · rw [Spread.handle, htaken, ok_bind]
  · rw [spread_step hjudged.accepts hjudged.scored, spreadAfter, ht, Option.map_some]

/-! ## A run -/

/-- From any session with a spread, the margins are those that the targets make of it. -/
theorem exists_epsilon_of_spread {t : Spread α} (ht : s.spread = some t)
    {calls : List (Call ι α)} (hok : ∀ r ∈ s.transcript calls, r.2.isOk = true) {n : ℕ}
    (hn : n < (targets calls).length) :
    ∃ e o, (s.transcript calls)[n]? = some (e, .ok o) ∧
      t.scaledDeviation s.settings.epsilon ((targets calls).take (n + 1)) = .ok o.epsilon := by
  induction calls generalizing s t n with
  | nil => exact absurd hn (Nat.not_lt_zero n)
  | cons c calls ih =>
      cases c with
      | step x target =>
          obtain ⟨hfirst, hrest⟩ := List.forall_mem_cons.1 hok
          obtain ⟨o, ho⟩ : ∃ o, (s.step x target).2 = .ok o := by
            cases hr : (s.step x target).2 with
            | ok o => exact ⟨o, rfl⟩
            | error f =>
                rw [hr] at hfirst
                cases hfirst
          obtain ⟨t', hhandle, hspread, hscaled⟩ := handle_of_step ht ho
          cases n with
          | zero =>
              refine ⟨(x, target), o, ?_, ?_⟩
              · rw [transcript, ho]
                rfl
              · rw [targets, List.take_succ_cons, List.take_zero, t.scaledDeviation_cons hhandle,
                  hscaled]
          | succ n =>
              have hsettings := (s.settings_after [.step x target]).1
              obtain ⟨e, o', ho', hscaled'⟩ :=
                ih (s := s.call (.step x target)) hspread hrest (Nat.lt_of_succ_lt_succ hn)
              refine ⟨e, o', ho', ?_⟩
              rw [targets, List.take_succ_cons, t.scaledDeviation_cons hhandle, ← hsettings]
              exact hscaled'
      | predict | weights => exact ih ht hok hn
      | finalize => exact ih (s := s.call .finalize) ht hok hn
      | adjust id delta =>
          have hsettings := (s.settings_after [.adjust id delta]).1
          have hspread : (s.call (.adjust id delta)).spread = some t := by
            simp only [call, adjust]
            split <;> exact ht
          rw [← hsettings]
          exact ih (s := s.call (.adjust id delta)) hspread hok hn

theorem exists_epsilon {settings : Settings α} (hvariant : settings.variant.adaptive = true)
    (hs : create settings = .ok s) {calls : List (Call ι α)}
    (hok : ∀ r ∈ s.transcript calls, r.2.isOk = true) {n : ℕ} (hn : n < (targets calls).length) :
    ∃ e o, (s.transcript calls)[n]? = some (e, .ok o) ∧
      Spread.start.scaledDeviation settings.epsilon ((targets calls).take (n + 1)) =
        .ok o.epsilon := by
  have hcreated : s.spread = some .start ∧ s.settings = settings := by
    rw [eq_of_create hs]
    exact ⟨if_pos hvariant, rfl⟩
  have hepsilon := exists_epsilon_of_spread hcreated.1 hok hn
  rwa [hcreated.2] at hepsilon

end Session

/-! ## Exact numbers -/

/-- The call does not end the session, and the ids of its example are keys. -/
def Call.Admissible {ι α : Type} [Key ι] : Call ι α → Prop
  | .step x _ => ∀ f ∈ x, Key.check f.id = .ok ()
  | .finalize => False
  | _ => True

instance {ι α : Type} [Key ι] : DecidablePred (Call.Admissible : Call ι α → Prop)
  | .step x _ => inferInstanceAs (Decidable (∀ f ∈ x, Key.check f.id = .ok ()))
  | .finalize => inferInstanceAs (Decidable False)
  | .predict _ | .weights | .adjust _ _ => inferInstanceAs (Decidable True)

open Exact

section Exact

variable {ι K : Type} [Field K]

/-- The sum of the squared deviations of the values from their mean. -/
def sumSqDeviation (ys : List K) : K := (ys.map fun y => (y - ys.sum / ys.length) ^ 2).sum

variable [LinearOrder K] [IsStrictOrderedRing K]

namespace Spread

variable {t : Spread K} {ys : List K}

theorem Summarizes.sumSqDiff_eq_sumSqDeviation (h : t.Summarizes ys) (hys : ys ≠ []) :
    t.sumSqDiff = sumSqDeviation ys := by
  rw [h.sumSqDiff_eq, h.mean_eq_div hys, sumSqDeviation]

theorem Summarizes.sumSqDiff_nonneg (h : t.Summarizes ys) : 0 ≤ t.sumSqDiff := by
  rw [h.sumSqDiff_eq]
  refine List.sum_nonneg fun a ha => ?_
  obtain ⟨y, -, rfl⟩ := List.mem_map.1 ha
  exact sq_nonneg _

variable [SquareRoot K]

theorem foldlM_handle_exact (t : Spread K) (ys : List K) :
    (ys.map finite).foldlM handle (t.map finite) = .ok ((ys.foldl taking t).map finite) := by
  induction ys generalizing t with
  | nil => rfl
  | cons y ys ih =>
      have hhandle : (t.map finite).handle (finite y) = .ok ((t.taking y).map finite) := by
        rw [handle, observe_exact, ok_bind]
      rw [List.map_cons, List.foldlM_cons, hhandle, ok_bind, ih, List.foldl_cons]

/-- **The scaled deviation**, as a formula. -/
theorem scaledDeviation_exact (epsilon : K) (ys : List K) :
    Spread.start.scaledDeviation (finite epsilon) (ys.map finite) =
      .ok (finite (epsilon * SquareRoot.root (ys.foldl taking ⟨0, 0, 0⟩).sampleVariance)) := by
  have hstart : (Spread.start : Spread (Exact K)) = (⟨0, 0, 0⟩ : Spread K).map finite := rfl
  rw [scaledDeviation, hstart, foldlM_handle_exact, ok_bind,
    deviation_eq (summarizes_foldl_taking ys).sumSqDiff_nonneg, ok_bind, mul_finite]

theorem sq_scaledDeviation [LawfulSquareRoot K] (epsilon : K) {n : ℕ} (hn : ys.length = n + 1) :
    (epsilon * SquareRoot.root (ys.foldl taking ⟨0, 0, 0⟩).sampleVariance) ^ 2 * n =
      epsilon ^ 2 * sumSqDeviation ys := by
  have h := summarizes_foldl_taking ys
  have hsq := LawfulSquareRoot.root_sq (sampleVariance_nonneg h.sumSqDiff_nonneg)
  have hys : ys ≠ [] := List.ne_nil_of_length_eq_add_one hn
  have hmul := h.sampleVariance_mul
  rw [hn, Nat.cast_succ, add_sub_cancel_right] at hmul
  rw [mul_pow, hsq, mul_assoc, hmul, h.sumSqDiff_eq_sumSqDeviation hys]

omit [IsStrictOrderedRing K] in
theorem scaledDeviation_singleton [LawfulSquareRoot K] (epsilon y : K) :
    epsilon * SquareRoot.root ([y].foldl taking ⟨0, 0, 0⟩).sampleVariance = 0 := by
  have hvariance : ([y].foldl taking (⟨0, 0, 0⟩ : Spread K)).sampleVariance = 0 :=
    if_pos one_lt_two
  rw [hvariance, root_zero, mul_zero]

end Spread

namespace Session

variable [Key ι] [SquareRoot K] {s : Session ι (Exact K)} {epsilon : K}

/-- Over exact numbers the margins are those of the squared deviations of the targets. -/
theorem exists_epsilon_exact [LawfulSquareRoot K] {settings : Settings (Exact K)}
    (he : settings.epsilon = finite epsilon) (hvariant : settings.variant.adaptive = true)
    (hs : create settings = .ok s) {calls : List (Call ι K)}
    (hok : ∀ r ∈ s.transcript (calls.map (Call.map finite)), r.2.isOk = true) {n : ℕ}
    (hn : n < (targets calls).length) :
    ∃ e o m, (s.transcript (calls.map (Call.map finite)))[n]? = some (e, .ok o) ∧
      o.epsilon = finite m ∧
      m ^ 2 * n = epsilon ^ 2 * sumSqDeviation ((targets calls).take (n + 1)) ∧
      (n = 0 → m = 0) := by
  have hn' : n < (targets (calls.map (Call.map finite))).length := by
    rw [targets_map, List.length_map]
    exact hn
  obtain ⟨e, o, ho, hscaled⟩ := exists_epsilon hvariant hs hok hn'
  rw [targets_map, ← List.map_take, he, Spread.scaledDeviation_exact] at hscaled
  have hlength : ((targets calls).take (n + 1)).length = n + 1 := by
    rw [List.length_take, min_eq_left hn]
  refine ⟨e, o, _, ho, (Except.ok.inj hscaled).symm, Spread.sq_scaledDeviation epsilon hlength,
    fun hzero => ?_⟩
  subst hzero
  obtain ⟨y, hy⟩ := List.length_eq_one_iff.1 hlength
  rw [hy]
  exact Spread.scaledDeviation_singleton epsilon y

/-- Over exact numbers a run fails in no step, if the ids are keys and it does not end the session
before. -/
theorem Holds.isOk_of_mem_transcript {w : WeightMap ι K} {t : Option (Spread K)}
    (hs : s.Holds epsilon w t) (haccepts : s.phase ≠ .finalized) {calls : List (Call ι K)}
    (hcalls : ∀ c ∈ calls, c.Admissible) :
    ∀ r ∈ s.transcript (calls.map (Call.map finite)), r.2.isOk = true := by
  induction calls generalizing s w t with
  | nil => exact fun r hr => absurd hr List.not_mem_nil
  | cons c calls ih =>
      obtain ⟨hc, hrest⟩ := List.forall_mem_cons.1 hcalls
      obtain ⟨w', t', hs', -⟩ := hs.call c
      cases c with
      | step x y =>
          obtain ⟨o, ho, -⟩ := hs.exists_outcome (y := y) haccepts hc rfl
          refine List.forall_mem_cons.2 ⟨?_, ih hs' (accepts_step haccepts _ _) hrest⟩
          show (s.step (x.map (Feature.map finite)) (finite y)).2.isOk = true
          rw [ho]
          rfl
      | predict | weights => exact ih hs haccepts hrest
      | adjust id d =>
          refine ih hs' ?_ hrest
          simp only [Call.map, Session.call, adjust]
          split <;> exact haccepts
      | finalize => exact hc.elim

end Session
end Exact

namespace Session

/-- **The margin of an adaptive session depends on the targets alone.**  In a run from creation of any
calls, in which no step fails, the margin that a step reports is the one that was set times the
deviation of a new spread into which the targets have been taken up to this one, in any arithmetic.
Over exact numbers its square, times one less than the number of these targets, is therefore the
square of the one that was set times the sum of their squared deviations from their mean, and it is
zero at the first step. -/
theorem adaptive_epsilon_of_targets {ι : Type} [Key ι] :
    (∀ {α : Type} [Arithmetic α] {settings : Settings α} {s : Session ι α}
      {calls : List (Call ι α)},
      settings.variant.adaptive = true → create settings = .ok s →
      (∀ r ∈ s.transcript calls, r.2.isOk = true) → ∀ n < (targets calls).length,
      ∃ e o, (s.transcript calls)[n]? = some (e, .ok o) ∧
        Spread.start.scaledDeviation settings.epsilon ((targets calls).take (n + 1)) =
          .ok o.epsilon) ∧
    (∀ {K : Type} [Field K] [LinearOrder K] [IsStrictOrderedRing K] [SquareRoot K]
      [LawfulSquareRoot K] {settings : Settings (Exact K)} {epsilon : K}
      {s : Session ι (Exact K)} {calls : List (Call ι K)},
      settings.epsilon = finite epsilon → settings.variant.adaptive = true →
      create settings = .ok s →
      (∀ r ∈ s.transcript (calls.map (Call.map finite)), r.2.isOk = true) →
      ∀ n < (targets calls).length,
      ∃ e o m, (s.transcript (calls.map (Call.map finite)))[n]? = some (e, .ok o) ∧
        o.epsilon = finite m ∧
        m ^ 2 * n = epsilon ^ 2 * sumSqDeviation ((targets calls).take (n + 1)) ∧
        (n = 0 → m = 0)) := by
  constructor
  · intro α _ settings s calls hvariant hs hok n hn
    exact exists_epsilon hvariant hs hok hn
  · intro K _ _ _ _ _ settings epsilon s calls he hvariant hs hok n hn
    exact exists_epsilon_exact he hvariant hs hok hn

/-- A run with a step that is discarded, one that does nothing and one that moves a weight which was
added to directly. -/
def surveyed : List (Call Value Operand) :=
  [.step [] (.int 3),
    .predict [⟨.text "b", .int 1⟩],
    .step [⟨.int 1, .real (Number.ofInt 2)⟩] (.bool true),
    .adjust (.text "b") (.int 4),
    .step [⟨.text "b", .int 1⟩] (.int 4),
    .step [⟨.text "b", .real (Number.ofInt 1)⟩, ⟨.null, .int 1⟩] (.int (-5))]

/-- An adaptive session, as it is created. -/
def surveying : Session Value Operand :=
  ⟨⟨.pa1a, none, .int 2⟩, Arithmetic.infinity, .empty, some .start, .idle, .none⟩

/-- That run in doubles, and one of the same kind over the reals. -/
theorem adaptive_epsilon_of_targets_surveyed :
    targets surveyed = [.int 3, .bool true, .int 4, .int (-5)] ∧
    (∃ e o, (surveying.transcript surveyed)[3]? = some (e, .ok o) ∧
      Spread.start.scaledDeviation surveying.settings.epsilon ((targets surveyed).take 4) =
        .ok o.epsilon) ∧
    ∃ (s : Session Value (Exact ℝ)) (calls : List (Call Value ℝ)),
      create ⟨.pa2a, none, finite (1 / 2)⟩ = .ok s ∧
      calls = [.step [] 3, .adjust (.text "b") 4, .step [⟨.bool true, 2⟩] 1,
        .step [⟨.text "b", 1⟩] (-5)] ∧
      ∃ (e : Example Value (Exact ℝ)) (o : Outcome (Exact ℝ)) (m : ℝ),
        (s.transcript (calls.map (Call.map finite)))[2]? = some (e, .ok o) ∧
        o.epsilon = finite m ∧ m ^ 2 * (2 : ℕ) = (1 / 2) ^ 2 * sumSqDeviation [3, 1, -5] ∧
        (2 = 0 → m = 0) := by
  refine ⟨rfl, ?_, ?_⟩
  · have hs : create surveying.settings = .ok surveying := rfl
    have hok : ∀ r ∈ surveying.transcript surveyed, r.2.isOk = true := by decide +kernel
    exact adaptive_epsilon_of_targets.1 rfl hs hok 3 (by decide)
  · obtain ⟨s, hs⟩ : ∃ s : Session Value (Exact ℝ), create ⟨.pa2a, none, finite (1 / 2)⟩ = .ok s :=
      exists_create (.inr ⟨1, one_pos, rfl⟩)
    have haccepts : s.phase ≠ .finalized := accepts_of_idle (by rw [eq_of_create hs])
    refine ⟨s, _, hs, rfl, ?_⟩
    refine adaptive_epsilon_of_targets.2 rfl rfl hs ?_ 2 (by decide)
    refine (holds_of_create rfl hs).isOk_of_mem_transcript haccepts ?_
    decide +kernel

end Session
end PassiveAggressive

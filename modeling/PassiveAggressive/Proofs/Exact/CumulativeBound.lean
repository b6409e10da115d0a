import Mathlib.Tactic.Linarith
import PassiveAggressive.Proofs.Exact.Distance
import PassiveAggressive.Proofs.Exact.Root

/-!
# The cumulative bound

A learner that follows a stream is compared with rival weights that were fixed in
advance.  Each update gains on the rival: with step size `η`, loss `L`, squared norm
`N` and the loss `R` of the rival on the same example it gains `η (2 L - η N - 2 R)`,
and the gains of a whole stream never add up to more than what the squared distance to
the rival has shrunk by (`cumulative_bound`).

The bound is one inequality for all variants.  The rule for the step size enters it only
through the step size not being negative, and the adaptive margin only through both
losses being taken with the margin that was in force, so neither the spread nor the
root it is taken of has to be understood.
-/

namespace PassiveAggressive

open Exact

variable {ι K : Type} [Key ι] [Field K] [LinearOrder K]

section Gain

variable [SquareRoot K]

/-- The loss of other weights on an example, with the margin that was in force. -/
def rivalLoss (u : WeightMap ι (Exact K)) (e : Example ι (Exact K)) (o : Outcome (Exact K)) :
    Except Fault (Exact K) := do
  let predicted ← u.score e.1
  insensitiveLoss predicted e.2 o.epsilon

/-- What an outcome gains on the rival if it is an update: `η (2 L - η N - 2 R)`. -/
def Outcome.gain (u : WeightMap ι K) (e : Example ι K) (o : Outcome (Exact K)) : Option K :=
  if o.status = .updated then do
    let eta ← o.eta.finite?
    let loss ← o.loss.finite?
    let norm ← o.squaredNorm.finite?
    let rival ← (rivalLoss (u.map finite) (e.map finite) o).toOption
    let rival ← rival.finite?
    some (eta * (2 * loss - eta * norm - 2 * rival))
  else some 0

/-- What a stream gains on the rival, given what each of its examples came to. -/
def totalGain (u : WeightMap ι K) :
    List (Example ι K) → List (Except StepError (Outcome (Exact K))) → Option K
  | e :: es, .ok o :: rs => do
    let gain ← o.gain u e
    let rest ← totalGain u es rs
    some (gain + rest)
  | _ :: es, .error _ :: rs => totalGain u es rs
  | _, _ => some 0

end Gain

/-! ## One update -/

variable [IsStrictOrderedRing K]

/-- **What a loss is more than the rival's** is not more than what the scores differ by in the
direction of the target. -/
theorem excess_sub_le {p y e : K} (h : 0 < excess p y e) (q : K) :
    excess p y e - excess q y e ≤ direction p y * (q - p) := by
  have hloss : excess p y e = |p - y| - e := by
    unfold excess at h ⊢
    exact max_eq_left ((lt_max_iff.1 h).resolve_right (lt_irrefl 0)).le
  have hrival : |q - y| - e ≤ excess q y e := le_max_left _ _
  have hsign : -|q - y| ≤ direction p y * (q - y) := by
    unfold direction
    split
    · rw [one_mul]
      exact neg_abs_le _
    · rw [neg_one_mul]
      exact neg_le_neg (le_abs_self _)
  have hway := direction_mul_sub p y
  have hsum : direction p y * (q - p) = direction p y * (q - y) + direction p y * (y - p) := by
    ring
  rw [hsum, hway, hloss]
  linarith

variable [SquareRoot K]

theorem rivalLoss_exact {x : Features ι K} (hx : ∀ f ∈ x, Key.check f.id = .ok ()) {y epsilon : K}
    {o : Outcome (Exact K)} (ho : o.epsilon = finite epsilon) (u : WeightMap ι K) :
    rivalLoss (u.map finite) (Example.map finite (x, y)) o =
      .ok (finite (excess (u.dot x) y epsilon)) := by
  simp only [rivalLoss, Example.map, u.score_exact hx, ho, ok_bind, insensitiveLoss_exact]

theorem gain_fieldReport {w : WeightMap ι K} {x : Features ι K} {y epsilon eta : K}
    (h : FieldUpdate w x y epsilon eta) (u : WeightMap ι K) :
    (fieldReport w x y epsilon eta).gain u (x, y) =
      some (eta * (2 * excess (w.dot x) y epsilon - eta * squaredNorm x -
        2 * excess (u.dot x) y epsilon)) := by
  have hrival : rivalLoss (u.map finite) (Example.map finite (x, y))
      (fieldReport w x y epsilon eta) = .ok (finite (excess (u.dot x) y epsilon)) :=
    rivalLoss_exact h.isKey rfl u
  simp only [Outcome.gain, hrival]
  rfl

omit [SquareRoot K] in
/-- **One update** gains at most what the distance to the rival shrinks by. -/
theorem gain_le_distSq_sub [LawfulKey ι] {w u : WeightMap ι K} (hu : u.DistinctKeys)
    {x : Features ι K} (hx : DistinctIds x) {y epsilon eta : K}
    (h : FieldUpdate w x y epsilon eta) :
    eta * (2 * excess (w.dot x) y epsilon - eta * squaredNorm x -
        2 * excess (u.dot x) y epsilon) ≤
      w.distSq u - (w.moved (direction (w.dot x) y * eta) x).distSq u := by
  have hloss := mul_le_mul_of_nonneg_left (excess_sub_le h.loss_pos (u.dot x)) h.eta_nonneg
  have hmoved := WeightMap.distSq_moved w hu (direction (w.dot x) y * eta) hx
  rw [mul_pow, direction_sq, one_mul] at hmoved
  rw [hmoved]
  linarith

/-! ## A whole stream -/

/-- From any session in the field, the gains of a stream are at most what the distance shrinks
by. -/
theorem Session.InField.totalGain_le [LawfulKey ι] {s : Session ι (Exact K)} {w : WeightMap ι K}
    (hs : s.InField w) {u : WeightMap ι K} (hu : u.DistinctKeys) {stream : List (Example ι K)}
    (hstream : ∀ e ∈ stream, DistinctIds e.1) :
    ∃ (w' : WeightMap ι K) (g : K), (s.feed (stream.map (Example.map finite))).1.InField w' ∧
      totalGain u stream (s.feed (stream.map (Example.map finite))).2 = some g ∧
      g ≤ w.distSq u - w'.distSq u := by
  induction stream generalizing s w with
  | nil => exact ⟨w, 0, hs, rfl, (sub_self _).ge⟩
  | cons e rest ih =>
    obtain ⟨x, y⟩ := e
    have hrest : ∀ e ∈ rest, DistinctIds e.1 := fun e he => hstream e (List.mem_cons_of_mem _ he)
    rw [Example.map_cons, feed_cons]
    rcases step_inField hs x y with ⟨epsilon, eta, hupdate, hs', hresult⟩ | ⟨hs', hresult⟩
    · obtain ⟨w', g, hw', hg, hle⟩ := ih hs' hrest
      refine ⟨w', eta * (2 * excess (w.dot x) y epsilon - eta * squaredNorm x -
          2 * excess (u.dot x) y epsilon) + g, hw', ?_, ?_⟩
      · rw [hresult, totalGain, gain_fieldReport hupdate, hg]
        rfl
      · have := gain_le_distSq_sub hu (hstream (x, y) List.mem_cons_self) hupdate
        linarith
    · obtain ⟨w', g, hw', hg, hle⟩ := ih hs' hrest
      refine ⟨w', g, hw', ?_, hle⟩
      cases hr : (s.step (x.map (Feature.map finite)) (finite y)).2 with
      | error f => rw [totalGain, hg]
      | ok o =>
        rw [totalGain, Outcome.gain, if_neg (hresult o hr), hg]
        change some (0 + g) = some g
        rw [zero_add]

/-- **The cumulative bound.**  Over exact numbers, for every variant, aggressiveness and margin and
whatever the function that is taken for the root, a stream of examples with distinct ids gains on
rival weights `u` at most `|u|² - |w - u|²`, where `w` are the weights the stream ends with. -/
theorem cumulative_bound [LawfulKey ι] (settings : Settings (Exact K)) {epsilon : K}
    (hepsilon : settings.epsilon = finite epsilon) {s : Session ι (Exact K)}
    (hs : Session.create settings = .ok s) {stream : List (Example ι K)}
    (hstream : ∀ e ∈ stream, DistinctIds e.1) {u : WeightMap ι K} (hu : u.DistinctKeys) :
    ∃ (w : WeightMap ι K) (g : K),
      (s.feed (stream.map (Example.map finite))).1.weights = w.map finite ∧
      totalGain u stream (s.feed (stream.map (Example.map finite))).2 = some g ∧
      g ≤ u.normSq - w.distSq u := by
  obtain ⟨w, g, hw, hg, hle⟩ :=
    (Session.inField_of_create hepsilon hs).totalGain_le hu hstream
  rw [WeightMap.distSq_empty] at hle
  exact ⟨w, g, hw.weights_eq, hg, hle⟩

/-- An adaptive session without a bound on its steps, a stream that shares an id between two
examples, and a rival that knows one of the ids. -/
theorem cumulative_bound_real :
    ∃ (s : Session Value (Exact ℝ)) (stream : List (Example Value ℝ)) (u w : WeightMap Value ℝ)
      (g : ℝ),
      Session.create ⟨.pa1a, none, finite (1 / 2)⟩ = .ok s ∧
      stream = [([⟨.int 1, 1⟩, ⟨.int 2, 3⟩], 2), ([⟨.int 1, 2⟩], -1)] ∧
      u = ⟨[(.int 1, 5)]⟩ ∧
      (s.feed (stream.map (Example.map finite))).1.weights = w.map finite ∧
      totalGain u stream (s.feed (stream.map (Example.map finite))).2 = some g ∧
      g ≤ u.normSq - w.distSq u := by
  obtain ⟨s, hs⟩ : ∃ s : Session Value (Exact ℝ),
      Session.create ⟨.pa1a, none, finite (1 / 2)⟩ = .ok s := ⟨_, rfl⟩
  have hids : ∀ e ∈ ([([⟨.int 1, 1⟩, ⟨.int 2, 3⟩], 2), ([⟨.int 1, 2⟩], -1)] :
      List (Example Value ℝ)), DistinctIds e.1 := by
    have hne : Key.same (Value.int 1) (Value.int 2) = false := by decide
    simp [DistinctIds, hne]
  have hu : (⟨[(.int 1, 5)]⟩ : WeightMap Value ℝ).DistinctKeys := List.pairwise_singleton _ _
  obtain ⟨w, g, h⟩ := cumulative_bound ⟨.pa1a, none, finite (1 / 2)⟩ rfl hs hids hu
  exact ⟨s, _, _, w, g, hs, rfl, rfl, h⟩

end PassiveAggressive

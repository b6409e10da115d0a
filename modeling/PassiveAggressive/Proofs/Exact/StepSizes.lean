import Mathlib.Algebra.Order.Field.Basic
import Mathlib.Tactic.FieldSimp
import Mathlib.Tactic.Linarith
import Mathlib.Tactic.Ring
import PassiveAggressive.Proofs.Exact.Root
import PassiveAggressive.Proofs.Exact.Step
import PassiveAggressive.Proofs.Session.Bookkeeping

/-!
# What step sizes obey

The two rules hold a step back in different ways, and each obeys the same laws: the size is
positive, it does not decrease when the aggressiveness grows, it never takes more off the loss
than there is, and it is infinite in one case only.  Each law here is a lemma about the stride,
which is the size as a formula (`StepRule.stride`), by cases on the aggressiveness: a number,
or no bound at all.  `StepRule.SizeLaws` collects them for one loss and one squared norm, and
says so of the sizes that the learner computes.

Both rules come to the plain quotient where nothing holds a step back (`stride_infinite`), and
everything else lies below it: `stride_le_quotient` is the middle of the monotonicity, and
`gap_softened` says how far below it a softened step remains.

A step is skipped because its size is infinite.  A squared norm is zero exactly if all values
are, so a session skips what has a loss, no length, and nothing to hold it back
(`Session.Holds.skipped_iff`).
-/

namespace PassiveAggressive

open Exact

variable {ι K : Type} [LinearOrder K]

/-! ## The order of exact numbers -/

namespace Exact

/-- The order of the learner. -/
instance : LT (Exact K) := ⟨fun x y => x.lt y = true⟩

/-- What is no number is not even at most itself. -/
instance : LE (Exact K) := ⟨fun x y => x < y ∨ x = y ∧ x ≠ nan⟩

variable {a b : K} {c d : Exact K}

@[simp] theorem finite_lt_finite : finite a < finite b ↔ a < b := decide_eq_true_iff

@[simp] theorem finite_le_finite : finite a ≤ finite b ↔ a ≤ b := by
  rw [le_iff_lt_or_eq, ← finite_lt_finite]
  exact or_congr_right (by simp)

@[simp] theorem finite_lt_infinite : finite a < infinite false := rfl

theorem finite_le_infinite : finite a ≤ infinite false := .inl rfl

theorem infinite_le_infinite : (infinite false : Exact K) ≤ infinite false := .inr ⟨rfl, nofun⟩

variable [Field K]

/-- Of two kinds of aggressiveness, the greater one is no bound, or both are numbers. -/
theorem Positive.le_cases (hc : c.Positive) (h : c ≤ d) :
    d = infinite false ∨ ∃ a b, 0 < a ∧ a ≤ b ∧ c = finite a ∧ d = finite b := by
  rcases hc with rfl | ⟨a, ha, rfl⟩
  · rcases h with h | ⟨h, -⟩
    · cases d <;> cases h
    · exact .inl h.symm
  · cases d with
    | finite b => exact .inr ⟨a, b, ha, finite_le_finite.1 h, rfl, rfl⟩
    | infinite negative =>
      cases negative with
      | false => exact .inl rfl
      | true => rcases h with h | ⟨h, -⟩ <;> cases h
    | nan => rcases h with h | ⟨h, -⟩ <;> cases h

theorem Positive.of_le (hc : c.Positive) (h : c ≤ d) : d.Positive := by
  rcases hc.le_cases h with rfl | ⟨a, b, ha, hab, -, rfl⟩
  · exact .inl rfl
  · exact .inr ⟨b, ha.trans_le hab, rfl⟩

end Exact

/-! ## The laws of the stride -/

variable [Field K] [IsStrictOrderedRing K]

namespace StepRule

variable {loss norm a b : K} {c d : Exact K} (hloss : 0 < loss) (hnorm : 0 ≤ norm)

omit [IsStrictOrderedRing K] in
/-- **A capped stride is not longer than the cap.** -/
theorem stride_capped_le (hc : c.Positive) : capped.stride loss norm c ≤ c := by
  rcases hc with rfl | ⟨a, -, rfl⟩
  · rw [stride_infinite]
    split
    · exact infinite_le_infinite
    · exact finite_le_infinite
  · rw [stride, finite_le_finite]
    split
    · exact le_rfl
    · exact min_le_left _ _

omit [IsStrictOrderedRing K] in
/-- **A stride is infinite in one case only**: there is no length and nothing holds the step
back. -/
theorem stride_eq_infinite_iff (rule : StepRule) (hc : c.Positive) :
    rule.stride loss norm c = infinite false ↔ norm = 0 ∧ c = infinite false := by
  rcases hc with rfl | ⟨a, -, rfl⟩
  · rw [stride_infinite]
    split
    · simp [*]
    · simp [*]
  · cases rule <;> simp [stride]

theorem softening_anti (ha : 0 < a) (hab : a ≤ b) : softening b ≤ softening a :=
  div_le_div_of_nonneg_left (by positivity) ha hab

include hloss hnorm

/-- **A stride is positive.** -/
theorem stride_pos (rule : StepRule) (hc : c.Positive) : finite 0 < rule.stride loss norm c := by
  rcases hc with rfl | ⟨a, ha, rfl⟩
  · rw [stride_infinite]
    split
    · exact finite_lt_infinite
    · rename_i h
      exact finite_lt_finite.2 (div_pos hloss (hnorm.lt_of_ne' h))
  · cases rule with
    | capped =>
      rw [stride, finite_lt_finite]
      split
      · exact ha
      · rename_i h
        exact lt_min ha (div_pos hloss (hnorm.lt_of_ne' h))
    | softened =>
      exact finite_lt_finite.2 (div_pos hloss (add_pos_of_nonneg_of_pos hnorm (softening_pos ha)))

/-- **No stride is longer than the plain quotient**, which is infinite for an example without
length. -/
theorem stride_le_quotient (rule : StepRule) (hc : c.Positive) :
    rule.stride loss norm c ≤ rule.stride loss norm (infinite false) := by
  rcases hc with rfl | ⟨a, ha, rfl⟩
  · rw [stride_infinite]
    split
    · exact infinite_le_infinite
    · exact finite_le_finite.2 le_rfl
  · rw [stride_infinite]
    cases rule with
    | capped =>
      rw [stride]
      split
      · exact finite_le_infinite
      · exact finite_le_finite.2 (min_le_right _ _)
    | softened =>
      rw [stride]
      split
      · exact finite_le_infinite
      · rename_i h
        exact finite_le_finite.2 (div_le_div_of_nonneg_left hloss.le (hnorm.lt_of_ne' h)
          (le_add_of_nonneg_right (softening_pos ha).le))

/-- **A greater aggressiveness never shortens a stride.** -/
theorem stride_mono (rule : StepRule) (hc : c.Positive) (hcd : c ≤ d) :
    rule.stride loss norm c ≤ rule.stride loss norm d := by
  rcases hc.le_cases hcd with rfl | ⟨a, b, ha, hab, rfl, rfl⟩
  · exact stride_le_quotient hloss hnorm rule hc
  · cases rule with
    | capped =>
      rw [stride, stride, finite_le_finite]
      split
      · exact hab
      · exact min_le_min_right _ hab
    | softened =>
      rw [stride, stride, finite_le_finite]
      exact div_le_div_of_nonneg_left hloss.le
        (add_pos_of_nonneg_of_pos hnorm (softening_pos (ha.trans_le hab)))
        (add_le_add_right (softening_anti ha hab) _)

/-- **A softened stride is not longer than twice the aggressiveness times the loss**, which is what
the softening alone allows. -/
theorem stride_softened_le (hc : c.Positive) :
    softened.stride loss norm c ≤ ((finite 2).mul c).mul (finite loss) := by
  have htwo : (2 : K) ≠ 0 := two_ne_zero
  rcases hc with rfl | ⟨a, ha, rfl⟩
  · have hbound : ((finite 2).mul (infinite false)).mul (finite loss) = (infinite false : Exact K) := by
      simp [Exact.mul, hloss.ne', hloss.not_gt]
    rw [hbound, stride_infinite]
    split
    · exact infinite_le_infinite
    · exact finite_le_infinite
  · have halone : loss / softening a = 2 * a * loss := by
      rw [softening]
      field_simp
      ring
    change finite (loss / (norm + softening a)) ≤ finite (2 * a * loss)
    rw [finite_le_finite, ← halone]
    exact div_le_div_of_nonneg_left hloss.le (softening_pos ha) (le_add_of_nonneg_left hnorm)

omit hnorm in
theorem exists_stride (rule : StepRule) (hnorm : 0 < norm) (hc : c.Positive) :
    ∃ τ, rule.stride loss norm c = finite τ ∧ τ ≤ loss / norm := by
  have hle := stride_le_quotient hloss hnorm.le rule hc
  rw [stride_infinite, if_neg hnorm.ne'] at hle
  rcases rule.stride_cases hloss.le hnorm.le hc with hinfinite | ⟨τ, -, hτ⟩
  · exact absurd ((rule.stride_eq_infinite_iff hc).1 hinfinite).1 hnorm.ne'
  · rw [hτ, finite_le_finite] at hle
    exact ⟨τ, hτ, hle⟩

omit hnorm in
/-- **How far a softened stride stays below the quotient**: always a little, and the less the
greater the aggressiveness. -/
theorem gap_softened (hnorm : 0 < norm) (ha : 0 < a) :
    loss / (norm + softening a) < loss / norm ∧
      loss / norm - loss / (norm + softening a) ≤ loss / (2 * a * norm ^ 2) := by
  have hsoft := softening_pos ha
  have hsum : 0 < norm + softening a := add_pos hnorm hsoft
  refine ⟨div_lt_div_of_pos_left hloss hnorm (lt_add_of_pos_right _ hsoft), ?_⟩
  calc loss / norm - loss / (norm + softening a)
      = loss * softening a / (norm * (norm + softening a)) := by
        field_simp
        ring
    _ ≤ loss * softening a / (norm * norm) :=
        div_le_div_of_nonneg_left (mul_pos hloss hsoft).le (mul_pos hnorm hnorm)
          (mul_le_mul_of_nonneg_left (le_add_of_nonneg_right hsoft.le) hnorm.le)
    _ = loss / (2 * a * norm ^ 2) := by
        rw [softening]
        field_simp
        ring

end StepRule

/-! ## The laws of the size -/

variable [SquareRoot K]

/-- What the sizes obey that the rules compute for one loss and one squared norm, at two kinds of
aggressiveness. -/
structure StepRule.SizeLaws (loss norm : K) (c d : Exact K) (size size' : StepRule → Exact K) :
    Prop where
  computed : ∀ rule : StepRule, rule.size (finite loss) (finite norm) c = .ok (size rule)
  computed' : ∀ rule : StepRule, rule.size (finite loss) (finite norm) d = .ok (size' rule)
  positive : ∀ rule, finite 0 < size rule
  monotone : ∀ rule, size rule ≤ size' rule
  capped : size .capped ≤ c
  softened : size .softened ≤ ((finite 2).mul c).mul (finite loss)
  /-- A step takes no more off the loss than there is. -/
  within : 0 < norm → ∀ rule, (size rule).mul (finite norm) ≤ finite loss
  below : 0 < norm → ∀ a, c = finite a → size .softened < finite (loss / norm)
  gap : 0 < norm → ∀ a, c = finite a →
    (finite (loss / norm)).add (size .softened).neg ≤ finite (loss / (2 * a * norm ^ 2))
  unbounded : 0 < norm → c = infinite false → ∀ rule, size rule = finite (loss / norm)
  infinite : ∀ rule, size rule = infinite false ↔ norm = 0 ∧ c = infinite false

/-- **The sizes obey the laws**, and are the strides. -/
theorem StepRule.sizeLaws {loss norm : K} {c d : Exact K} (hloss : 0 < loss) (hnorm : 0 ≤ norm)
    (hc : c.Positive) (hcd : c ≤ d) :
    SizeLaws loss norm c d (fun rule => rule.stride loss norm c)
      (fun rule => rule.stride loss norm d) where
  computed rule := rule.size_exact loss hnorm hc
  computed' rule := rule.size_exact loss hnorm (hc.of_le hcd)
  positive rule := stride_pos hloss hnorm rule hc
  monotone rule := stride_mono hloss hnorm rule hc hcd
  capped := stride_capped_le hc
  softened := stride_softened_le hloss hnorm hc
  within := by
    intro hpos rule
    obtain ⟨τ, hτ, hle⟩ := exists_stride hloss rule hpos hc
    rw [hτ]
    exact finite_le_finite.2 ((le_div_iff₀ hpos).1 hle)
  below := by
    rintro hpos a rfl
    exact finite_lt_finite.2 (gap_softened hloss hpos (pos_of_positive hc)).1
  gap := by
    rintro hpos a rfl
    change finite (loss / norm + -(loss / (norm + softening a))) ≤ _
    rw [finite_le_finite, ← sub_eq_add_neg]
    exact (gap_softened hloss hpos (pos_of_positive hc)).2
  unbounded := by
    rintro hpos rfl rule
    exact if_neg hpos.ne'
  infinite rule := rule.stride_eq_infinite_iff hc

/-! ## Skipped steps -/

variable [Key ι]

namespace Session

variable {s : Session ι (Exact K)} {epsilon : K} {w : WeightMap ι K} {t : Option (Spread K)}

/-- **A step is skipped** if there is a loss, no length, and nothing to hold the step back. -/
theorem Holds.skipped_iff (hs : s.Holds epsilon w t) {x : Features ι K} {y : K}
    {o : Outcome (Exact K)} (h : (s.step (x.map (Feature.map finite)) (finite y)).2 = .ok o) :
    o.status = .skipped ↔ Arithmetic.isPositive o.loss = .ok true ∧ (∀ f ∈ x, f.value = 0) ∧
      s.aggressiveness = infinite false := by
  obtain ⟨seen, hjudged⟩ := judged_of_ok h
  have hx : ∀ f ∈ x, Key.check f.id = .ok () := fun f hf =>
    WeightMap.check_of_scoreAndNorm hjudged.scored _ (List.mem_map_of_mem hf)
  obtain ⟨e, he⟩ : ∃ e, marginAfter epsilon (t.map (Spread.taking · y)) = e := ⟨_, rfl⟩
  have hinfinite : s.settings.variant.rule.stride (excess (w.dot x) y e) (squaredNorm x)
      s.aggressiveness = infinite false ↔ squaredNorm x = 0 ∧ s.aggressiveness = infinite false :=
    s.settings.variant.rule.stride_eq_infinite_iff hs.aggressive
  rw [← squaredNorm_eq_zero_iff, ← hinfinite]
  rcases (excess_nonneg (w.dot x) y e).eq_or_lt with hloss | hloss
  · rw [hs.step_noUpdate hjudged.accepts hx (he ▸ hloss.symm)] at h
    cases h
    simp
  · rcases s.settings.variant.rule.stride_cases hloss.le (squaredNorm_nonneg x) hs.aggressive with
      hstride | ⟨τ, -, hstride⟩
    · rw [hs.step_skipped hjudged.accepts hx he hloss hstride] at h
      cases h
      simp [hloss, hstride]
    · rw [hs.step_updated hjudged.accepts hx he hloss hstride] at h
      cases h
      simp [fieldReport, hstride]

/-- **The laws of step sizes.**  Over exact numbers the sizes of both rules obey the laws, for every
positive loss, every squared norm that is not negative, and every aggressiveness greater than zero
beside one that is not less.  So in a session that any calls have led to, a step that comes to an
outcome is skipped exactly if its loss is positive, every value of the example is zero and the
aggressiveness is infinite; and a step on an example whose ids are keys comes to an outcome, unless
the session has been finalized. -/
theorem step_size_laws {settings : Settings (Exact K)} (he : settings.epsilon = finite epsilon)
    (hs : create settings = .ok s) (calls : List (Call ι K)) :
    (∀ (loss norm : K) (c d : Exact K), 0 < loss → 0 ≤ norm → c.Positive → c ≤ d →
      ∃ size size', StepRule.SizeLaws loss norm c d size size') ∧
    ∀ (x : Features ι K) (y : K),
      let r := ((s.after (calls.map (Call.map finite))).step (x.map (Feature.map finite))
        (finite y)).2
      (∀ o, r = .ok o → (o.status = .skipped ↔ Arithmetic.isPositive o.loss = .ok true ∧
        (∀ f ∈ x, f.value = 0) ∧ s.aggressiveness = infinite false)) ∧
      (.finalize ∉ calls → (∀ f ∈ x, Key.check f.id = .ok ()) → ∃ o, r = .ok o) := by
  refine ⟨fun loss norm c d hloss hnorm hc hcd =>
    ⟨_, _, StepRule.sizeLaws hloss hnorm hc hcd⟩, fun x y => ?_⟩
  obtain ⟨w, t, hheld, -⟩ := (holds_of_create he hs).after calls
  refine ⟨fun o h => ?_, fun hopen hx => ?_⟩
  · rw [hheld.skipped_iff h, (s.settings_after _).2]
  · have hidle : s.phase = .idle := by rw [eq_of_create hs]
    have hstill := idle_after hidle (mt (Call.finalize_mem_map finite calls).1 hopen)
    obtain ⟨o, ho, -⟩ := hheld.exists_outcome (y := y) (accepts_of_idle hstill) hx rfl
    exact ⟨o, ho⟩

/-- An example of zeros, under ids of two kinds. -/
def zeros : Features Value ℝ := [⟨.int 1, 0⟩, ⟨.text "b", 0⟩]

/-- The laws for a loss of three, and a session that nothing holds back, which has been read and
meets an example of zeros. -/
theorem step_size_laws_zeros :
    (∃ size size', StepRule.SizeLaws (3 : ℝ) 2 (finite 1) (infinite false) size size') ∧
    ∃ s : Session Value (Exact ℝ), create ⟨.pa2, some (infinite false), finite (1 / 10)⟩ = .ok s ∧
      ∃ o, ((s.after [.predict [], .weights]).step (zeros.map (Feature.map finite))
        (finite 5)).2 = .ok o ∧ o.status = .skipped := by
  obtain ⟨s, hs⟩ : ∃ s : Session Value (Exact ℝ),
      create ⟨.pa2, some (infinite false), finite (1 / 10)⟩ = .ok s := exists_create (.inl rfl)
  have hc : s.aggressiveness = infinite false := aggressiveness_of_create hs
  have haccepts : s.phase ≠ .finalized := accepts_of_idle (by rw [eq_of_create hs])
  have hzero : ∀ f ∈ zeros, f.value = 0 := by simp [zeros]
  have hdot : (WeightMap.empty : WeightMap Value ℝ).dot zeros = 0 := by
    simp [WeightMap.dot, zeros]
  obtain ⟨hlaws, hsteps⟩ := step_size_laws rfl hs [.predict [], .weights]
  obtain ⟨o, ho, -, -, hloss, -⟩ := (holds_of_create rfl hs).exists_outcome (y := 5) haccepts
    (x := zeros) (by decide +kernel) rfl
  have hpositive : Arithmetic.isPositive o.loss = .ok true := by
    rw [hloss, isPositive_finite, Except.ok.injEq, decide_eq_true_eq, hdot, excess]
    refine lt_max_of_lt_left ?_
    change 0 < |(0 : ℝ) - 5| - 1 / 10
    norm_num
  exact ⟨hlaws 3 2 _ _ (by norm_num) (by norm_num) (.inr ⟨1, one_pos, rfl⟩) finite_le_infinite,
    s, hs, o, ho, ((hsteps zeros 5).1 o ho).2 ⟨hpositive, hzero, hc⟩⟩

end Session
end PassiveAggressive

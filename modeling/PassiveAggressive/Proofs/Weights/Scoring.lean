import PassiveAggressive.Learner.Score
import PassiveAggressive.Proofs.Weights.Filing

/-!
# Scoring, feature by feature

What is read under an id is the weight of some entry, or zero (`of_get`), and after a
weight has been filed it is that weight under every id that is the same key.

A score is a fold that may fault.  `scoreAndNorm_induction` is the one induction over
it: what every feature preserves of the sums, and what it shows of the feature, holds
of a whole example that could be scored.  In particular its ids are keys
(`check_of_scoreAndNorm`).
-/

namespace PassiveAggressive

/-! ## Computations that may fault -/

@[simp] theorem ok_bind {ε β γ : Type} (a : β) (f : β → Except ε γ) :
    (Except.ok a >>= f) = f a := rfl

@[simp] theorem error_bind {ε β γ : Type} (e : ε) (f : β → Except ε γ) :
    (Except.error e >>= f) = .error e := rfl

/-- A computation in two parts has a result if both parts have. -/
theorem bind_eq_ok_iff {ε β γ : Type} {x : Except ε β} {f : β → Except ε γ} {c : γ} :
    (x >>= f) = .ok c ↔ ∃ b, x = .ok b ∧ f b = .ok c := by
  cases x with
  | error e => simp
  | ok b => simp

/-- Whether there is a result that has a property can be decided. -/
instance decidableExistsOk {ε α : Type} {P : α → Prop} [DecidablePred P] :
    ∀ r : Except ε α, Decidable (∃ x, r = .ok x ∧ P x)
  | .ok x => decidable_of_iff (P x) ⟨fun h => ⟨x, rfl, h⟩, fun ⟨_, hx, h⟩ => Except.ok.inj hx ▸ h⟩
  | .error _ => .isFalse fun ⟨_, hx, _⟩ => nomatch hx

namespace WeightMap

variable {ι α : Type} [Key ι] [Arithmetic α]

/-! ## Reading a weight -/

section Reading

variable {m : WeightMap ι α} {id id' : ι} {w : α}

theorem get_eq (hkey : Key.check id = .ok ()) :
    m.get id = .ok ((m.find? id).getD Arithmetic.zero) := by
  rw [get, hkey, ok_bind]

theorem check_of_get (h : m.get id = .ok w) : Key.check id = .ok () := by
  obtain ⟨⟨⟩, hcheck, -⟩ := bind_eq_ok_iff.1 h
  exact hcheck

/-- **What is read** is zero or the weight of an entry. -/
theorem of_get {P : α → Prop} (hzero : P Arithmetic.zero) (hm : ∀ e ∈ m.entries, P e.2)
    (h : m.get id = .ok w) : P w := by
  rw [get_eq (check_of_get h)] at h
  cases h
  unfold find?
  cases he : m.entries.find? fun e => Key.same e.1 id with
  | none => exact hzero
  | some e => exact hm e (List.mem_of_find?_eq_some he)

variable [LawfulKey ι]

theorem get_insert_of_same (h : Key.same id id' = true) (hkey : Key.check id' = .ok ()) (w : α) :
    (m.insert id w).get id' = .ok w := by
  rw [get_eq hkey, find?_insert, if_pos h, Option.getD_some]

theorem get_insert_of_ne (h : Key.same id id' = false) (w : α) :
    (m.insert id w).get id' = m.get id' := by
  unfold get
  rw [find?_insert, h, if_neg Bool.false_ne_true]

end Reading

/-! ## Scores -/

/-- The score and the squared norm so far, continued by one feature. -/
def addFeature (m : WeightMap ι α) (acc : Margin α) (f : Feature ι α) :
    Except Fault (Margin α) := do
  let score ← m.addToScore acc.score f
  let squaredNorm ← addToNorm acc.squaredNorm f
  .ok ⟨score, squaredNorm⟩

theorem scoreAndNorm_eq_foldlM (m : WeightMap ι α) (x : Features ι α) :
    m.scoreAndNorm x = x.foldlM m.addFeature ⟨Arithmetic.zero, Arithmetic.zero⟩ := rfl

/-- **Induction over a score.**  `P` is what holds of the sums so far, `Q` what is learnt of each
feature on the way. -/
theorem scoreAndNorm_induction {m : WeightMap ι α} {P : Margin α → Prop}
    {Q : Feature ι α → Prop}
    (hstep : ∀ acc f acc', P acc → m.addFeature acc f = .ok acc' → P acc' ∧ Q f)
    (hzero : P ⟨Arithmetic.zero, Arithmetic.zero⟩) {x : Features ι α} {seen : Margin α}
    (h : m.scoreAndNorm x = .ok seen) : P seen ∧ ∀ f ∈ x, Q f := by
  rw [scoreAndNorm_eq_foldlM] at h
  generalize (⟨Arithmetic.zero, Arithmetic.zero⟩ : Margin α) = acc at hzero h
  induction x generalizing acc with
  | nil =>
    rw [List.foldlM_nil] at h
    cases h
    exact ⟨hzero, by simp⟩
  | cons f fs ih =>
    rw [List.foldlM_cons] at h
    obtain ⟨acc', hacc, h⟩ := bind_eq_ok_iff.1 h
    obtain ⟨hP, hQ⟩ := hstep acc f acc' hzero hacc
    obtain ⟨hseen, hfs⟩ := ih acc' hP h
    refine ⟨hseen, fun g hg => ?_⟩
    rcases List.mem_cons.1 hg with rfl | hg
    · exact hQ
    · exact hfs g hg

theorem check_of_scoreAndNorm {m : WeightMap ι α} {x : Features ι α} {seen : Margin α}
    (h : m.scoreAndNorm x = .ok seen) : ∀ f ∈ x, Key.check f.id = .ok () := by
  refine (scoreAndNorm_induction (P := fun _ => True) (fun acc f acc' _ hacc => ?_) trivial h).2
  obtain ⟨score, hscore, -⟩ := bind_eq_ok_iff.1 hacc
  obtain ⟨w, hw, -⟩ := bind_eq_ok_iff.1 hscore
  exact ⟨trivial, check_of_get hw⟩

end WeightMap
end PassiveAggressive

import PassiveAggressive.Example.Validity
import PassiveAggressive.Proofs.Weights.Filing

/-!
# Which examples are accepted

The check goes through the features in order and stops at the first one that is not as it
should be.  An example is accepted exactly if nothing in it is to be complained about: it has
features, their ids are pairwise different keys, and every number is finite
(`check_eq_ok_iff`).  If the ids are keys, and of every number it can be told whether it is
finite, then what is found wrong is wrong with the example and no fault (`ne_fault_of_check`).
-/

namespace PassiveAggressive

variable {ι α : Type} [Key ι] [Arithmetic α]

namespace Example

/-- The ids before the first feature are none of the ids, and every feature is in order. -/
theorem checkFeatures_eq_ok_iff {seen : List ι} {x : Features ι α} :
    checkFeatures seen x = .ok () ↔
      (∀ f ∈ x, Key.check f.id = .ok () ∧ Arithmetic.isFinite f.value = .ok true) ∧
        (∀ f ∈ x, ∀ id ∈ seen, Key.same id f.id = false) ∧ DistinctIds x := by
  induction x generalizing seen with
  | nil => simp [checkFeatures, DistinctIds]
  | cons f fs ih =>
    have hseen : seen.any (Key.same · f.id) = false ↔ ∀ id ∈ seen, Key.same id f.id = false := by
      simp only [List.any_eq_false, Bool.not_eq_true]
    -- an id that has passed is one of those that no later id may be
    have hnext : (∀ g ∈ fs, ∀ id ∈ f.id :: seen, Key.same id g.id = false) ↔
        (∀ g ∈ fs, Key.same f.id g.id = false) ∧
          ∀ g ∈ fs, ∀ id ∈ seen, Key.same id g.id = false := by
      simp only [List.forall_mem_cons, forall_and]
    rw [checkFeatures, List.forall_mem_cons, List.forall_mem_cons, DistinctIds,
      List.pairwise_cons, ← hseen]
    cases hkey : Key.check f.id with
    | error e => simp
    | ok checked =>
      cases hany : seen.any (Key.same · f.id) with
      | true => simp
      | false =>
        cases hfinite : Arithmetic.isFinite f.value with
        | error e => simp
        | ok finite =>
          cases finite with
          | false => simp
          | true =>
            simp only [Bool.false_eq_true, if_false, ih, hnext, true_and, and_self]
            constructor
            · rintro ⟨hall, ⟨hhead, hseen⟩, htail⟩
              exact ⟨hall, hseen, hhead, htail⟩
            · rintro ⟨hall, hseen, hhead, htail⟩
              exact ⟨hall, ⟨hhead, hseen⟩, htail⟩

/-- **The accepted examples** are those with at least one feature, pairwise different keys for ids,
and finite numbers. -/
theorem check_eq_ok_iff {x : Features ι α} {target : α} :
    check x target = .ok () ↔
      x ≠ [] ∧ (∀ f ∈ x, Key.check f.id = .ok () ∧ Arithmetic.isFinite f.value = .ok true) ∧
        DistinctIds x ∧ Arithmetic.isFinite target = .ok true := by
  have hfeatures : checkFeatures [] x = .ok () ↔
      (∀ f ∈ x, Key.check f.id = .ok () ∧ Arithmetic.isFinite f.value = .ok true) ∧
        DistinctIds x := by
    simp [checkFeatures_eq_ok_iff]
  have htarget : checkTarget target = (.ok () : Except (Invalid ι α) Unit) ↔
      Arithmetic.isFinite target = .ok true := by
    unfold checkTarget
    rcases Arithmetic.isFinite target with e | _ | _
    · simp
    · simp
    · simp
  rw [← htarget, ← and_assoc, ← and_assoc, and_assoc (a := x ≠ []), ← hfeatures, check]
  cases x with
  | nil => simp
  | cons f fs =>
    rw [List.isEmpty_cons, if_neg Bool.false_ne_true]
    cases hall : checkFeatures [] (f :: fs) with
    | error e => simp
    | ok checked => simp

theorem ne_fault_of_checkFeatures {seen : List ι} {x : Features ι α}
    (hkeys : ∀ f ∈ x, Key.check f.id = .ok ())
    (hvalues : ∀ f ∈ x, ∃ b, Arithmetic.isFinite f.value = .ok b) {e : Invalid ι α}
    (h : checkFeatures seen x = .error e) (fault : Fault) : e ≠ .fault fault := by
  induction x generalizing seen with
  | nil => cases h
  | cons f fs ih =>
    obtain ⟨hkey, hkeys⟩ := List.forall_mem_cons.1 hkeys
    obtain ⟨⟨b, hb⟩, hvalues⟩ := List.forall_mem_cons.1 hvalues
    rw [checkFeatures, hkey] at h
    simp only at h
    split at h
    · cases h
      exact nofun
    · rw [hb] at h
      cases b with
      | false =>
        cases h
        exact nofun
      | true => exact ih hkeys hvalues h

/-- **What is not accepted is found wrong**, and nothing faults. -/
theorem ne_fault_of_check {x : Features ι α} {target : α}
    (hkeys : ∀ f ∈ x, Key.check f.id = .ok ())
    (hvalues : ∀ f ∈ x, ∃ b, Arithmetic.isFinite f.value = .ok b)
    (htarget : ∃ b, Arithmetic.isFinite target = .ok b) {e : Invalid ι α}
    (h : check x target = .error e) (fault : Fault) : e ≠ .fault fault := by
  unfold check at h
  split at h
  · cases h
    exact nofun
  · cases hfeatures : checkFeatures [] x with
    | error e' =>
      rw [hfeatures] at h
      cases h
      exact ne_fault_of_checkFeatures hkeys hvalues hfeatures fault
    | ok checked =>
      obtain ⟨b, hb⟩ := htarget
      rw [hfeatures, checkTarget, hb] at h
      cases b with
      | false =>
        cases h
        exact nofun
      | true => cases h

end Example
end PassiveAggressive

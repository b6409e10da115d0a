import Mathlib.Data.List.Pairwise
import Mathlib.Order.Fin.Basic
import Mathlib.Order.MinMax
import Mathlib.Order.WellFounded
import PassiveAggressive.Example.Reading
import PassiveAggressive.Learner.Description
import PassiveAggressive.Proofs.Example.Acceptance

/-!
# The first thing that is wrong with an example

Three things can be wrong with an example that has features: an id is the same key as an
earlier one, a value is not finite, the target is not finite.  The check reports one of them,
and which one is a matter of places.  A place is *amiss* if its id repeats an earlier one or
its value is not finite; the complaint is about the first place that is amiss, and there the
repetition comes before the value.  The target is looked at only when no place is amiss.

The check knows the earlier ids as a growing list and never looks back.  What carries the
argument is that features without complaint can be passed over, with their ids put on that
list (`checkFeatures_append`): the check then stands in front of the first place that is amiss,
and the list holds exactly the ids before it.
-/

namespace PassiveAggressive

variable {ι α : Type} [Key ι]

namespace Example

/-! ## Places -/

/-- The id at this place is the same key as an earlier one. -/
def RepeatsAt (x : Features ι α) (i : Fin x.length) : Prop :=
  ∃ j < i, Key.same (x.get j).id (x.get i).id = true

instance (x : Features ι α) (i : Fin x.length) : Decidable (RepeatsAt x i) :=
  inferInstanceAs (Decidable (∃ j < i, Key.same (x.get j).id (x.get i).id = true))

theorem distinctIds_iff {x : Features ι α} : DistinctIds x ↔ ∀ i, ¬ RepeatsAt x i := by
  simp only [DistinctIds, RepeatsAt, List.pairwise_iff_get, not_exists, not_and, Bool.not_eq_true]
  exact ⟨fun h i j hij => h j i hij, fun h i j hij => h j i hij⟩

omit [Key ι] in
theorem exists_mem_take_iff {x : Features ι α} {i : Fin x.length} {P : Feature ι α → Prop} :
    (∃ f ∈ x.take i, P f) ↔ ∃ j < i, P (x.get j) := by
  simp only [List.mem_take_iff_getElem]
  constructor
  · rintro ⟨f, ⟨j, hj, rfl⟩, h⟩
    exact ⟨⟨j, (lt_min_iff.1 hj).2⟩, (lt_min_iff.1 hj).1, h⟩
  · rintro ⟨j, hj, h⟩
    exact ⟨_, ⟨j, lt_min hj j.2, rfl⟩, h⟩

theorem distinctIds_take {x : Features ι α} {i : Fin x.length}
    (h : ∀ j < i, ¬ RepeatsAt x j) : DistinctIds (x.take i) := by
  refine List.pairwise_iff_getElem.2 fun j k hj hk hjk => ?_
  rw [List.getElem_take, List.getElem_take]
  have hk' : k < i := (lt_min_iff.1 (List.length_take ▸ hk)).1
  exact Bool.eq_false_iff.2 fun hsame =>
    h ⟨k, hk'.trans i.2⟩ hk' ⟨⟨j, (hjk.trans hk').trans i.2⟩, hjk, hsame⟩

variable [Arithmetic α]

/-- The feature at this place is not as it should be. -/
def AmissAt (x : Features ι α) (i : Fin x.length) : Prop :=
  RepeatsAt x i ∨ Arithmetic.isFinite (x.get i).value = .ok false

instance (x : Features ι α) (i : Fin x.length) : Decidable (AmissAt x i) :=
  inferInstanceAs (Decidable (RepeatsAt x i ∨ Arithmetic.isFinite (x.get i).value = .ok false))

/-! ## Passing over what is in order -/

/-- **Features in order are passed over**, and their ids are known from then on. -/
theorem checkFeatures_append {seen : List ι} {front : Features ι α}
    (h : checkFeatures seen front = .ok ()) (rest : Features ι α) :
    checkFeatures seen (front ++ rest) =
      checkFeatures ((front.map Feature.id).reverse ++ seen) rest := by
  induction front generalizing seen with
  | nil => rfl
  | cons f fs ih =>
    rw [checkFeatures] at h
    rw [List.cons_append, checkFeatures, List.map_cons, List.reverse_cons, List.append_assoc,
      List.singleton_append]
    split at h
    · cases h
    · rename_i hkey
      split at h
      · cases h
      · rename_i hnew
        split at h
        · cases h
        · cases h
        · rename_i hfinite
          simp only [hnew, Bool.false_eq_true, if_false]
          exact ih h

/-- What there is to be said of a place that is amiss: the repetition, if there is one. -/
def complaintAt (x : Features ι α) (i : Fin x.length) : Invalid ι α :=
  if RepeatsAt x i then .duplicate (x.get i).id
  else .valueNotFinite (x.get i).id (x.get i).value

section Verdict

variable {x : Features ι α} {target : α} (hkeys : ∀ f ∈ x, Key.check f.id = .ok ())
  (hvalues : ∀ f ∈ x, ∃ b, Arithmetic.isFinite f.value = .ok b)

include hkeys hvalues

theorem checkFeatures_eq_ok (h : ∀ i, ¬ AmissAt x i) : checkFeatures [] x = .ok () := by
  refine checkFeatures_eq_ok_iff.2 ⟨fun f hf => ⟨hkeys f hf, ?_⟩, by simp,
    distinctIds_iff.2 fun i hi => h i (.inl hi)⟩
  obtain ⟨i, rfl⟩ := List.mem_iff_get.1 hf
  obtain ⟨b, hb⟩ := hvalues _ hf
  cases b with
  | true => exact hb
  | false => exact absurd (.inr hb) (h i)

theorem checkFeatures_take {i : Fin x.length} (h : ∀ j < i, ¬ AmissAt x j) :
    checkFeatures [] (x.take i) = .ok () := by
  refine checkFeatures_eq_ok_iff.2 ⟨fun f hf => ⟨hkeys f (List.mem_of_mem_take hf), ?_⟩, by simp,
    distinctIds_take fun j hj hrepeats => h j hj (.inl hrepeats)⟩
  obtain ⟨j, hj, rfl⟩ := exists_mem_take_iff (P := (· = f)).1 ⟨f, hf, rfl⟩
  obtain ⟨b, hb⟩ := hvalues _ (List.mem_of_mem_take hf)
  cases b with
  | true => exact hb
  | false => exact absurd (.inr hb) (h j hj)

/-- **The first place that is amiss is complained about.** -/
theorem checkFeatures_eq_error {i : Fin x.length} (hi : AmissAt x i)
    (hfirst : ∀ j < i, ¬ AmissAt x j) : checkFeatures [] x = .error (complaintAt x i) := by
  have hsplit : x.take i ++ x.get i :: x.drop (i + 1) = x := by
    rw [List.get_eq_getElem, List.getElem_cons_drop, List.take_append_drop]
  have hknown : (((x.take i).map Feature.id).reverse ++ []).any (Key.same · (x.get i).id) = true ↔
      RepeatsAt x i := by
    rw [List.append_nil, List.any_reverse, List.any_map, List.any_eq_true, RepeatsAt]
    exact exists_mem_take_iff (P := fun f => Key.same f.id (x.get i).id = true)
  have hhere := checkFeatures_append (checkFeatures_take hkeys hvalues hfirst)
    (x.get i :: x.drop (i + 1))
  rw [hsplit, checkFeatures, hkeys _ (List.get_mem x i)] at hhere
  rw [hhere, complaintAt]
  simp only [hknown]
  split
  · rfl
  · rename_i hnew
    rw [hi.resolve_left hnew]

/-- Where a place is amiss the target does not matter. -/
theorem check_eq_error {i : Fin x.length} (hi : AmissAt x i) (hfirst : ∀ j < i, ¬ AmissAt x j) :
    check x target = .error (complaintAt x i) := by
  have hne : x.isEmpty = false := by
    cases x with
    | nil => exact i.elim0
    | cons => rfl
  rw [check, hne, if_neg Bool.false_ne_true, checkFeatures_eq_error hkeys hvalues hi hfirst]

theorem check_eq_checkTarget (hne : x ≠ []) (h : ∀ i, ¬ AmissAt x i) :
    check x target = checkTarget target := by
  rw [check, List.isEmpty_eq_false_iff.2 hne, if_neg Bool.false_ne_true,
    checkFeatures_eq_ok hkeys hvalues h]

/-- **What is complained about**, if anything is. -/
theorem check_eq_error_iff (htarget : ∃ b, Arithmetic.isFinite target = .ok b) (e : Invalid ι α) :
    check x target = .error e ↔
      x = [] ∧ e = .noFeatures ∨
      (∃ i, AmissAt x i ∧ (∀ j < i, ¬ AmissAt x j) ∧ e = complaintAt x i) ∨
      x ≠ [] ∧ (∀ i, ¬ AmissAt x i) ∧ Arithmetic.isFinite target = .ok false ∧
        e = .targetNotFinite target := by
  by_cases hamiss : ∃ i, AmissAt x i
  · obtain ⟨i, hi, hfirst⟩ := wellFounded_lt.has_min {i | AmissAt x i} hamiss
    have hfirst' : ∀ j < i, ¬ AmissAt x j := fun j hj hamiss => hfirst j hamiss hj
    rw [check_eq_error hkeys hvalues hi hfirst', Except.error.injEq]
    constructor
    · rintro rfl
      exact .inr (.inl ⟨i, hi, hfirst', rfl⟩)
    · rintro (⟨rfl, -⟩ | ⟨j, hj, hfirst'', rfl⟩ | ⟨-, hsound, -⟩)
      · exact i.elim0
      · -- there is only one first place
        rw [le_antisymm (not_lt.1 fun h => hfirst' j h hj) (not_lt.1 fun h => hfirst'' i h hi)]
      · exact absurd hi (hsound i)
  · have hsound : ∀ i, ¬ AmissAt x i := fun i hi => hamiss ⟨i, hi⟩
    rcases eq_or_ne x [] with rfl | hne
    · simp [check, eq_comm]
    · obtain ⟨b, hb⟩ := htarget
      rw [check_eq_checkTarget hkeys hvalues hne hsound, checkTarget, hb]
      cases b <;> simp [hne, hsound, eq_comm]

/-- **What the check finds.**  Let the ids be keys, and let it be decided of every number whether it
is finite, as it is of a double.  The example is accepted exactly if it has features, their ids are
pairwise different keys and all numbers are finite.  Otherwise it is refused with a complaint: that
it has no features; or about the first place that is amiss, where a repeated id is complained about
before the value; or, where no place is amiss, about the target. -/
theorem check_finds_first (htarget : ∃ b, Arithmetic.isFinite target = .ok b) :
    (check x target = .ok () ↔ x ≠ [] ∧ DistinctIds x ∧
      (∀ f ∈ x, Arithmetic.isFinite f.value = .ok true) ∧ Arithmetic.isFinite target = .ok true) ∧
    (∀ e, check x target = .error e → e.isComplaint = true) ∧
    ∀ e, check x target = .error e ↔
      x = [] ∧ e = .noFeatures ∨
      (∃ i, AmissAt x i ∧ (∀ j < i, ¬ AmissAt x j) ∧ e = complaintAt x i) ∨
      x ≠ [] ∧ (∀ i, ¬ AmissAt x i) ∧ Arithmetic.isFinite target = .ok false ∧
        e = .targetNotFinite target := by
  refine ⟨?_, fun e h => ?_, check_eq_error_iff hkeys hvalues htarget⟩
  · rw [check_eq_ok_iff]
    constructor
    · rintro ⟨hne, hall, hdistinct, hfinite⟩
      exact ⟨hne, hdistinct, fun f hf => (hall f hf).2, hfinite⟩
    · rintro ⟨hne, hdistinct, hall, hfinite⟩
      exact ⟨hne, fun f hf => ⟨hkeys f hf, hall f hf⟩, hdistinct, hfinite⟩
  · have hfault := ne_fault_of_check hkeys hvalues htarget h
    cases e with
    | fault f => exact absurd rfl (hfault f)
    | noFeatures | duplicate | valueNotFinite | targetNotFinite => rfl

end Verdict

/-- A text, a whole number, the same key again with a value that is not finite, and another value
that is not finite. -/
def clashing : OpenFeatures :=
  [⟨.text "1", .real (Number.ofInt 2)⟩, ⟨.int 1, .real (Number.ofInt 2)⟩,
    ⟨.bool true, .real Number.nan⟩, ⟨.text "b", .real (Number.infinity false)⟩]

/-- The third place is the first one that is amiss, and it is the repetition that is complained
about; what stands before it is accepted. -/
theorem check_finds_first_clashing :
    (∀ f ∈ clashing, Key.check f.id = .ok ()) ∧
    (∀ f ∈ clashing, ∃ b, Arithmetic.isFinite f.value = .ok b) ∧
    check clashing (.real Number.nan) = .error (.duplicate (.bool true)) ∧
    check (clashing.take 2) (.real (Number.ofInt 2)) = .ok () := by
  have hkeys : ∀ f ∈ clashing, Key.check f.id = .ok () := by decide +kernel
  have hvalues : ∀ f ∈ clashing, ∃ b, Arithmetic.isFinite f.value = .ok b := by decide +kernel
  have hfinite : ∃ b, Arithmetic.isFinite (.real (Number.ofInt 2) : Operand) = .ok b :=
    ⟨true, by decide +kernel⟩
  have hnan : ∃ b, Arithmetic.isFinite (.real Number.nan : Operand) = .ok b :=
    ⟨false, by decide +kernel⟩
  refine ⟨hkeys, hvalues, ?_, ?_⟩
  · obtain ⟨-, -, herror⟩ := check_finds_first hkeys hvalues hnan
    exact (herror _).2 (.inr (.inl ⟨⟨2, by decide⟩, by decide +kernel, by decide +kernel, rfl⟩))
  · obtain ⟨haccepted, -⟩ := check_finds_first (x := clashing.take 2)
      (fun f hf => hkeys f (List.mem_of_mem_take hf))
      (fun f hf => hvalues f (List.mem_of_mem_take hf)) hfinite
    exact haccepted.2 ⟨by decide, by unfold DistinctIds; decide +kernel, by decide +kernel,
      by decide +kernel⟩

end Example
end PassiveAggressive

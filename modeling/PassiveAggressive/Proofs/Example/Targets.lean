import PassiveAggressive.Example.Table
import PassiveAggressive.Proofs.Double.Nearest
import PassiveAggressive.Proofs.Example.Traversal

/-!
# Columns of targets

A column of targets is read cell by cell, except that a column of whole numbers of 64 bits is
read at once.  What cannot be read counts as missing, and one kind of cell alone is refused: a
whole number that is beyond every double.  Whole numbers of 64 bits are not
(`isFinite_ofInt_of_natAbs_le`), so the two ways to read a column refuse the same columns
(`exists_numbers_iff`).
-/

namespace PassiveAggressive

open Double

namespace Number

theorem isInf_of_isFinite {x : Float} (h : x.isFinite = true) : x.isInf = false := by
  have hparts : (parts x).isFinite = true := h
  show (parts x).isInf = false
  cases hp : parts x with
  | infinity s =>
    rw [hp] at hparts
    cases hparts
  | _ => rfl

/-- A whole number of 64 bits is not beyond the doubles. -/
theorem isFinite_ofInt_of_natAbs_le {n : Int} (h : n.natAbs ≤ 2 ^ 64) :
    (ofInt n).isFinite = true := by
  by_cases hzero : n.natAbs = 0
  · rw [Int.natAbs_eq_zero.1 hzero]
    decide +kernel
  · have hround := rounds_nearest (decide (n < 0)) (Nat.pos_of_ne_zero hzero) one_pos
    rw [Nat.cast_one, div_one] at hround
    have hlt : (2 : ℚ) ^ (64 : ℤ) < beyond := zpow_lt_zpow_right₀ one_lt_two (by omega)
    have hle : |signed (signOf (decide (n < 0))) (n.natAbs : ℚ)| ≤ 2 ^ (64 : ℤ) := by
      rw [abs_signed _ (Nat.cast_nonneg _)]
      exact_mod_cast h
    obtain ⟨r, hr, -⟩ := hround.exists_finite (representable_two_zpow (by omega)) hlt hle
    have hfinite := isFinite_eq (ofInt n)
    rw [ofInt, hr] at hfinite
    exact hfinite

/-- Whole numbers that fit together in a column of 64 bits are not beyond the doubles. -/
theorem isFinite_ofInt_of_fitTogether {ns : List Int} (h : fitTogether ns = true) :
    ∀ n ∈ ns, (ofInt n).isFinite = true := by
  intro n hn
  refine isFinite_ofInt_of_natAbs_le ?_
  have hsigned : (twoTo 63 : Int) = 2 ^ 63 := rfl
  have hunsigned : (twoTo 64 : Int) = 2 ^ 64 := rfl
  rcases Bool.or_eq_true_iff.1 h with hall | hall
  · have hfits := List.all_eq_true.1 hall n hn
    simp only [fitsSigned, hsigned, Bool.and_eq_true, decide_eq_true_eq] at hfits
    omega
  · have hfits := List.all_eq_true.1 hall n hn
    simp only [fitsUnsigned, hunsigned, Bool.and_eq_true, decide_eq_true_eq] at hfits
    omega

theorem isInf_ofInt_of_fitTogether {ns : List Int} (h : fitTogether ns = true) :
    ∀ n ∈ ns, (ofInt n).isInf = false := fun n hn =>
  isInf_of_isFinite (isFinite_ofInt_of_fitTogether h n hn)

end Number

namespace Table

/-- What is no whole number can be read, as missing if need be. -/
theorem exists_number {cell : Value} (h : ∀ n, cell ≠ .int n) : ∃ y, number cell = .ok y := by
  unfold number
  split
  · rename_i n
    exact absurd rfl (h n)
  · exact ⟨_, rfl⟩
  · exact ⟨_, rfl⟩
  · split
    · exact ⟨_, rfl⟩
    · exact ⟨_, rfl⟩

theorem exists_number_int_iff {n : Int} :
    (∃ y, number (.int n) = .ok y) ↔ (Number.ofInt n).isInf = false := by
  unfold number
  simp only
  by_cases hinf : (Number.ofInt n).isInf = true
  · simp [hinf]
  · simp [hinf]

theorem exists_number_iff {cell : Value} :
    (∃ y, number cell = .ok y) ↔ ∀ n, cell = .int n → (Number.ofInt n).isInf = false := by
  by_cases hint : ∃ n, cell = .int n
  · obtain ⟨n, rfl⟩ := hint
    rw [exists_number_int_iff]
    constructor
    · intro h m hm
      rw [← Value.int.inj hm]
      exact h
    · intro h
      exact h n rfl
  · exact ⟨fun _ n hn => absurd ⟨n, hn⟩ hint, fun _ => exists_number fun n hn => hint ⟨n, hn⟩⟩

theorem exists_mapM_number_iff {cells : List Value} :
    (∃ ys, cells.mapM number = .ok ys) ↔
      ∀ n, .int n ∈ cells → (Number.ofInt n).isInf = false := by
  rw [exists_mapM_eq_ok_iff]
  constructor
  · intro h n hn
    exact exists_number_iff.1 (h (.int n) hn) n rfl
  · intro h cell hcell
    refine exists_number_iff.2 fun n hn => h n ?_
    rw [← hn]
    exact hcell

theorem of_mapM_whole? {cells : List Value} {ns : List Int} (h : cells.mapM whole? = some ns) :
    ns.length = cells.length ∧ ∀ n, .int n ∈ cells → n ∈ ns := by
  have hread := mapM_eq_some_iff.1 h
  refine ⟨hread.length_eq.symm, fun n hn => ?_⟩
  obtain ⟨m, hm, hwhole⟩ := exists_mem_of_forall₂ hread _ hn
  cases hwhole
  exact hm

/-- **A column of targets can be read** exactly if no whole number in it is beyond every double. -/
theorem exists_numbers_iff {cells : List Value} :
    (∃ ys, numbers cells = .ok ys) ↔ ∀ n, .int n ∈ cells → (Number.ofInt n).isInf = false := by
  unfold numbers
  cases hwhole : cells.mapM whole? with
  | none => exact exists_mapM_number_iff
  | some ns =>
    simp only
    by_cases hfit : Number.fitTogether ns = true
    · rw [if_pos hfit]
      refine ⟨fun _ n hn => ?_, fun _ => ⟨_, rfl⟩⟩
      exact Number.isInf_ofInt_of_fitTogether hfit n ((of_mapM_whole? hwhole).2 n hn)
    · rw [if_neg hfit]
      exact exists_mapM_number_iff

/-- What cannot be read is too large. -/
theorem eq_tooLarge_of_number {cell : Value} {f : Fault} (h : number cell = .error f) :
    f = .tooLarge := by
  unfold number at h
  split at h
  · simp only at h
    split at h
    · exact (Except.error.inj h).symm
    · cases h
  · cases h
  · cases h
  · split at h <;> cases h

/-- A whole number beyond every double is too large for the whole column. -/
theorem numbers_of_isInf {cells : List Value} {n : Int} (hn : .int n ∈ cells)
    (hinf : (Number.ofInt n).isInf = true) : numbers cells = .error .tooLarge := by
  cases hnumbers : numbers cells with
  | ok ys =>
    have hfalse := exists_numbers_iff.1 ⟨ys, hnumbers⟩ n hn
    rw [hinf] at hfalse
    cases hfalse
  | error f =>
    have hread : cells.mapM number = .error f := by
      unfold numbers at hnumbers
      split at hnumbers
      · split at hnumbers
        · cases hnumbers
        · exact hnumbers
      · exact hnumbers
    obtain ⟨_, cell, _, -, -, hcell⟩ := mapM_eq_error_iff.1 hread
    rw [eq_tooLarge_of_number hcell]

/-- There is a number for every cell. -/
theorem length_of_numbers {cells : List Value} {ys : List Float} (h : numbers cells = .ok ys) :
    ys.length = cells.length := by
  have hcells : ∀ {ys : List Float}, cells.mapM number = .ok ys → ys.length = cells.length :=
    fun h => (mapM_eq_ok_iff.1 h).length_eq.symm
  unfold numbers at h
  split at h
  · rename_i ns hwhole
    split at h
    · cases h
      rw [List.length_map]
      exact (of_mapM_whole? hwhole).1
    · exact hcells h
  · exact hcells h

end Table
end PassiveAggressive
